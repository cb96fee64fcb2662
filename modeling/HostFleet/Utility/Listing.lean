import HostFleet.Text.Version
import HostFleet.Utility.Marking
import HostFleet.Utility.PathNames
import HostFleet.Utility.Removal
import HostFleet.Utility.Search

/-!
# Lists of files

`ls` lists what is in folders, and `stat` tells all about single files.
-/

namespace HostFleet.Utility

open Machine

/-! ## What is known of a file -/

/-- A file as lists show it. -/
structure Listed where
  name : String
  /-- The path under which it was found. -/
  path : String
  place : Place
  kind : Kind
  /-- What stands where a link leads to. -/
  destination : Option Kind := none
  mode : Nat
  time : Int
  links : Nat := 1

namespace Listed

def ofPath (files : Files) (folder : String) (follow : Bool) (name path : String) :
    Except OsError Listed := do
  let (place, kind) ← files.lookup follow folder path
  let inner := if kind == .folder then
      (files.entries place).countP fun n => files.kind? (n :: place) == some .folder
    else 0
  .ok { name := name, path := path, place := place, kind := kind
        destination := (files.lookup true folder path).toOption.map Prod.snd
        mode := files.mode place, time := files.time place
        links := if kind == .folder then 2 + inner else 1 }

def size (f : Listed) : Nat :=
  match f.kind with
  | .file content => content.length
  | .folder => 4096
  | .link target => (ByteText.ofText target).length
  | .device _ => 0

/-- How many blocks of 512 bytes a file takes. -/
def blocks (f : Listed) : Nat :=
  match f.kind with
  | .file content => (content.length + 4095) / 4096 * 8
  | .folder => 8
  | _ => 0

/-- A number for the place, which no other place has. -/
def inode (f : Listed) : Nat :=
  f.place.key.toList.foldl (fun n c => (n * 31 + c.toNat) % 4194304) 7

def kindLetter (f : Listed) : Char :=
  match f.kind with
  | .file _ => '-'
  | .folder => 'd'
  | .link _ => 'l'
  | .device _ => 'c'

def permissions (f : Listed) : String := String.singleton f.kindLetter ++ modeLetters f.mode

/-- The numbers of a device. -/
def device (f : Listed) : Nat × Nat :=
  match f.kind with
  | .device .null => (1, 3)
  | .device .zeros => (1, 5)
  | .device .full => (1, 7)
  | .device .random => (1, 8)
  | .device .terminal => (5, 0)
  | .device (.descriptor n) => (136, n)
  | _ => (0, 0)

end Listed

/-- A size with a letter for its unit, rounded up. -/
def humanSize (base : Nat) (n : Nat) : String :=
  if n < base then toString n
  else
    let units := ["K", "M", "G", "T", "P", "E"]
    let rec go (scale : Nat) : List String → String
      | [] => toString n
      | unit :: rest =>
        let tenths := (n * 10 + scale - 1) / scale
        if tenths < 100 then toString (tenths / 10) ++ "." ++ toString (tenths % 10) ++ unit
        else if (n + scale - 1) / scale < base || rest.isEmpty then
          toString ((n + scale - 1) / scale) ++ unit
        else go (scale * base) rest
    go base units

/-! ## The style of a list -/

inductive Arrangement where
  | single
  | long
  | columns
  | rows
  | commas
  deriving DecidableEq

/-- How `ls` works. -/
structure ListStyle where
  arrangement : Arrangement := .single
  order : Option Char := none
  isReversed : Bool := false
  isRecursive : Bool := false
  showsFolders : Bool := false
  showsHidden : Nat := 0
  mark : Option Char := none
  quoting : String := "literal"
  hidesControls : Bool := false
  inodes : Bool := false
  blocks : Bool := false
  owner : Bool := true
  group : Bool := true
  numeric : Bool := false
  human : Option Nat := none
  template : Option String := none
  width : Nat := 80
  follow : Bool := false
  ignored : List String := []
  zone : Zone := {}
  now : Int := 0
  stop : String := "\n"

namespace ListStyle

variable (s : ListStyle)

def nameText (name : String) : String :=
  let text := match s.quoting with
    | "c" => "\x22" ++ inner ['\x22', '\x5c'] name ++ "\x22"
    | "escape" => inner ['\x5c', ' '] name
    | "shell" => ShellWord.quoted name
    | "shell-escape" => ShellWord.quoted name
    | "shell-always" => ShellWord.always name
    | "shell-escape-always" => ShellWord.always name
    | "locale" => ShellWord.shown name
    | "clocale" => "\x22" ++ inner ['\x22', '\x5c'] name ++ "\x22"
    | _ => name
  if s.hidesControls then text.map fun c => if ShellWord.isPrintable c then c else '?' else text
where
  inner (special : List Char) (name : String) : String :=
    String.ofList (name.toList.flatMap fun c =>
      if special.contains c then ['\x5c', c]
      else if ShellWord.isPrintable c then [c] else ShellWord.escape c)

/-- The sign behind a name for what kind of file it is. -/
def markOf (kind : Kind) (mode : Nat) : String :=
  match s.mark with
  | none => ""
  | some m =>
    match kind with
    | .folder => "/"
    | .link _ => if m = '/' then "" else "@"
    | .file _ => if m = '*' && mode &&& 0o111 != 0 then "*" else ""
    | .device _ => ""

def ordered (files : List Listed) : List Listed :=
  let byName (a b : Listed) : Bool := decide (a.name ≤ b.name)
  let extension (n : String) : String :=
    let back := n.toList.reverse
    let tail := back.takeWhile (· != '.')
    if tail.length < back.length then String.ofList ('.' :: tail.reverse) else ""
  let le (a b : Listed) : Bool := match s.order with
    | some 't' => if a.time = b.time then byName a b else decide (b.time < a.time)
    | some 'S' => if a.size = b.size then byName a b else decide (b.size < a.size)
    | some 'X' =>
      if extension a.name = extension b.name then byName a b
      else decide (extension a.name ≤ extension b.name)
    | some 'v' => Version.compareNames a.name b.name != .gt
    | _ => byName a b
  let sorted := if s.order = some 'U' then files else files.mergeSort le
  if s.isReversed && s.order != some 'U' then sorted.reverse else sorted

def blockText (n : Nat) : String :=
  match s.human with
  | some base => humanSize base (n * 512)
  | none => toString (n / 2)

/-- What stands in front of a name in a short list. -/
def frills (inodeWidth blockWidth : Nat) (f : Listed) : String :=
  (if s.inodes then padLeft inodeWidth (toString f.inode) ++ " " else "")
    ++ (if s.blocks then padLeft blockWidth (s.blockText f.blocks) ++ " " else "")

def sizeText (n : Nat) : String :=
  match s.human with
  | some base => humanSize base n
  | none => toString n

def timeText (time : Int) : String :=
  let m := momentOf s.zone time
  match s.template with
  | some template => m.format template
  | none =>
    let age := s.now - time
    let isRecent := 0 ≤ age && age < 15778476 * 1000000
    m.format (if isRecent then "%b %e %H:%M" else "%b %e  %Y")

def widest (texts : List String) : Nat := texts.foldl (fun n t => max n t.length) 0

/-- The lines of a long list. -/
def longLines (files : List Listed) : List String :=
  let column (text : Listed → String) : Nat := widest (files.map text)
  let owner := if s.numeric then "0" else "root"
  let isDevice (f : Listed) : Bool := f.kind matches .device _
  let major := column fun f => if isDevice f then toString f.device.1 else ""
  let minor := column fun f => if isDevice f then toString f.device.2 else ""
  let plain := column fun f => if isDevice f then "" else s.sizeText f.size
  let sizeWidth := max plain (if major = 0 then 0 else major + 2 + minor)
  let sizeText (f : Listed) : String :=
    if isDevice f then
      let minorText := padLeft minor (toString f.device.2)
      padLeft sizeWidth (padLeft (sizeWidth - 2 - minor) (toString f.device.1) ++ ", " ++ minorText)
    else padLeft sizeWidth (s.sizeText f.size)
  let linkWidth := column fun f => toString f.links
  let inodeWidth := column fun f => toString f.inode
  let blockWidth := column fun f => s.blockText f.blocks
  files.map fun f =>
    s.frills inodeWidth blockWidth f ++ f.permissions ++ " "
      ++ padLeft linkWidth (toString f.links) ++ " "
      ++ (if s.owner then owner ++ " " else "") ++ (if s.group then owner ++ " " else "")
      ++ sizeText f ++ " " ++ s.timeText f.time ++ " " ++ s.nameText f.name
      ++ match f.kind with
        | .link target =>
          " -> " ++ s.nameText (ByteText.ofText target)
            ++ (f.destination.map fun k => s.markOf k 0).getD ""
        | kind => s.markOf kind f.mode

/-- White space from one column to another, with tabs where they fit. -/
def indent (fuel from' to' : Nat) : String :=
  match fuel with
  | 0 => ""
  | fuel + 1 =>
    if to' ≤ from' then ""
    else if (from' + 1) / 8 < to' / 8 then "\t" ++ indent fuel (from' + 8 - from' % 8) to'
    else " " ++ indent fuel (from' + 1) to'

/-- The widths of so many columns, if they fit. -/
def widths? (count : Nat) (lengths : List Nat) : Option (List Nat) :=
  let n := lengths.length
  let rows := (n + count - 1) / count
  let columnOf (i : Nat) : Nat := if s.arrangement = .rows then i % count else i / rows
  let widths := (lengths.zipIdx).foldl (fun (ws : List Nat) (length, i) =>
    let at' := columnOf i
    let width := length + if at' = count - 1 then 0 else 2
    ws.modify at' (max width)) (List.replicate count 3)
  if widths.foldl (· + ·) 0 < s.width then some widths else none

/-- Names in columns. -/
def inColumns (texts : List String) : List String :=
  let n := texts.length
  let lengths := texts.map String.length
  let most := max 1 (min (s.width / 3) n)
  let counts := ((List.range most).map (· + 1)).reverse
  let (count, widths) := (counts.findSome? fun count =>
    (s.widths? count lengths).map fun ws => (count, ws)).getD (1, [])
  let rows := if n = 0 then 0 else (n + count - 1) / count
  (List.range rows).map fun row =>
    let cells := (List.range count).filterMap fun col =>
      texts[if s.arrangement = .rows then row * count + col else row + col * rows]?
    let rec line (pos : Nat) : List String → List Nat → String
      | [], _ => ""
      | [t], _ => t
      | t :: rest, w :: ws =>
        t ++ indent 200 (pos + t.length) (pos + w) ++ line (pos + w) rest ws
      | t :: rest, [] => t ++ line pos rest []
    line 0 cells widths

/-- Names with commas between them. -/
def withCommas (texts : List String) : String :=
  let (out, _) := texts.foldl (fun ((out, pos) : Option String × Nat) t =>
    match out with
    | none => (some t, t.length)
    | some o =>
      if s.width = 0 || pos + t.length + 2 < s.width then
        (some (o ++ ", " ++ t), pos + 2 + t.length)
      else (some (o ++ ",\n" ++ t), t.length)) (none, 0)
  out.getD ""

/-- The list of some files. -/
def show' (files : List Listed) : String :=
  let inodeWidth := widest (files.map fun f => toString f.inode)
  let blockWidth := widest (files.map fun f => s.blockText f.blocks)
  let isAligned := s.arrangement != .commas
  let texts := files.map fun f =>
    s.frills (if isAligned then inodeWidth else 0) (if isAligned then blockWidth else 0) f
      ++ s.nameText f.name ++ s.markOf f.kind f.mode
  let lines (ls : List String) : String := String.join (ls.map (· ++ s.stop))
  if files.isEmpty then ""
  else match s.arrangement with
    | .single => lines texts
    | .long => lines (s.longLines files)
    | .commas => s.withCommas texts ++ s.stop
    | _ => lines (s.inColumns texts)

end ListStyle

namespace Listing

def options : Options where
  short := "abcdfghiklmnopqrstuvw:xABCDFGHI:LNQRST:UXZ1"
  long := [("all", .none, "a"), ("escape", .none, "b"), ("directory", .none, "d"),
    ("dired", .none, "D"), ("full-time", .none, "full-time"),
    ("group-directories-first", .none, "folders-first"), ("human-readable", .none, "h"),
    ("inode", .none, "i"), ("kibibytes", .none, "k"), ("numeric-uid-gid", .none, "n"),
    ("no-group", .none, "G"), ("hide-control-chars", .none, "q"), ("reverse", .none, "r"),
    ("size", .none, "s"), ("width", .required, "w"), ("almost-all", .none, "A"),
    ("ignore-backups", .none, "B"), ("classify", .optional, "F"), ("file-type", .none, "file-type"),
    ("si", .none, "si"), ("dereference-command-line", .none, "H"), ("hide", .required, "hide"),
    ("ignore", .required, "I"), ("indicator-style", .required, "indicator-style"),
    ("dereference", .none, "L"), ("literal", .none, "N"), ("quote-name", .none, "Q"),
    ("quoting-style", .required, "quoting-style"), ("recursive", .none, "R"),
    ("format", .required, "format"), ("show-control-chars", .none, "show-control"),
    ("sort", .required, "sort"), ("tabsize", .required, "T"), ("time", .required, "time"),
    ("time-style", .required, "time-style"), ("color", .optional, "color"),
    ("hyperlink", .optional, "hyperlink"), ("block-size", .required, "block-size"),
    ("context", .none, "Z"), ("author", .none, "author"), ("zero", .none, "zero")]

/-- Changes a style by an option. -/
def apply (c : Call) (s : ListStyle) (key value : String) : Program ListStyle :=
  let choose (option : String) (choices : List String) : Program String := do
    match choices.find? fun w => w == value with
    | some w => pure w
    | none =>
      match choices.filter fun w => w.startsWith value with
      | [w] => pure w
      | _ => c.wrongChoice option value (choices.map fun w => [w]) 2
  match key with
  | "a" => pure { s with showsHidden := 2 }
  | "A" => pure { s with showsHidden := 1 }
  | "f" => pure { s with showsHidden := 2, order := some 'U' }
  | "l" => pure { s with arrangement := .long }
  | "n" => pure { s with arrangement := .long, numeric := true }
  | "g" => pure { s with arrangement := .long, owner := false }
  | "o" => pure { s with arrangement := .long, group := false }
  | "G" => pure { s with group := false }
  | "1" => pure (if s.arrangement = .long then s else { s with arrangement := .single })
  | "C" => pure { s with arrangement := .columns }
  | "x" => pure { s with arrangement := .rows }
  | "m" => pure { s with arrangement := .commas }
  | "format" => do
    let w ← choose "--format" ["verbose", "long", "commas", "horizontal", "across", "vertical",
      "single-column"]
    pure { s with arrangement := match w with
      | "verbose" => .long
      | "long" => .long
      | "commas" => .commas
      | "horizontal" => .rows
      | "across" => .rows
      | "vertical" => .columns
      | _ => .single }
  | "d" => pure { s with showsFolders := true }
  | "R" => pure { s with isRecursive := true }
  | "r" => pure { s with isReversed := true }
  | "i" => pure { s with inodes := true }
  | "s" => pure { s with blocks := true }
  | "h" => pure { s with human := some 1024 }
  | "si" => pure { s with human := some 1000 }
  | "L" => pure { s with follow := true }
  | "F" => pure { s with mark := some '*' }
  | "file-type" => pure { s with mark := some '@' }
  | "p" => pure { s with mark := some '/' }
  | "indicator-style" => do
    let w ← choose "--indicator-style" ["none", "slash", "file-type", "classify"]
    pure { s with mark := match w with
      | "none" => none
      | "slash" => some '/'
      | "file-type" => some '@'
      | _ => some '*' }
  | "Q" => pure { s with quoting := "c" }
  | "b" => pure { s with quoting := "escape" }
  | "N" => pure { s with quoting := "literal" }
  | "q" => pure { s with hidesControls := true }
  | "show-control" => pure { s with hidesControls := false }
  | "quoting-style" => do
    let w ← choose "--quoting-style" ["literal", "shell", "shell-always", "shell-escape",
      "shell-escape-always", "c", "c-maybe", "escape", "locale", "clocale"]
    pure { s with quoting := w }
  | "sort" => do
    let w ← choose "--sort" ["none", "time", "size", "extension", "version", "width", "name"]
    pure { s with order := match w with
      | "none" => some 'U'
      | "time" => some 't'
      | "size" => some 'S'
      | "extension" => some 'X'
      | "version" => some 'v'
      | _ => none }
  | "time-style" =>
    let w := if value.startsWith "posix-" then dropFront 6 value else value
    match w with
    | "full-iso" => pure { s with template := some "%Y-%m-%d %H:%M:%S.%N %z" }
    | "long-iso" => pure { s with template := some "%Y-%m-%d %H:%M" }
    | "iso" => pure { s with template := some "%m-%d %H:%M" }
    | "locale" => pure { s with template := none }
    | w =>
      if w.startsWith "+" then pure { s with template := some (dropFront 1 w) }
      else c.fail ("invalid argument " ++ inQuotes w ++ " for 'time style'\n"
        ++ "Valid arguments are:\n  - [posix-]full-iso\n  - [posix-]long-iso\n  - [posix-]iso\n"
        ++ "  - [posix-]locale\n  - +FORMAT (e.g., +%H:%M) for a 'date'-style format\n" ++ c.hint) 2
  | "full-time" =>
    pure { s with arrangement := .long, template := some "%Y-%m-%d %H:%M:%S.%N %z" }
  | "w" =>
    match natural? value with
    | some 0 => pure { s with width := 1000000 }
    | some n => pure { s with width := n }
    | none => c.fail ("invalid line width: " ++ inQuotes value) 2
  | "I" => pure { s with ignored := value :: s.ignored }
  | "hide" => pure { s with ignored := value :: s.ignored }
  | "B" => pure { s with ignored := "*~" :: s.ignored }
  | "zero" => pure { s with stop := "\x00", arrangement := .single }
  | "T" => pure s
  | key =>
    match key.toList with
    | [letter] =>
      if ['t', 'S', 'U', 'X', 'v'].contains letter then pure { s with order := some letter }
      else pure s
    | _ => pure s

/-- The files in a folder that are to be shown. -/
def filesIn (s : ListStyle) (files : Files) (folder path : String) (place : Place) :
    List Listed :=
  let isShown (name : String) : Bool :=
    (0 < s.showsHidden || !name.startsWith ".")
      && !(s.ignored.any fun t => Search.fitsName (t.length + name.length + 1) t.toList name.toList)
  let names := (files.entries place).filter isShown
  let names := if s.showsHidden = 2 then "." :: ".." :: names else names
  names.filterMap fun name =>
    (Listed.ofPath files folder s.follow name (Path.join path name)).toOption

/-- The lists of a folder and, if they are wanted, of those inside it. -/
def folderText (s : ListStyle) (files : Files) (folder : String) (fuel : Nat) (titled : Bool)
    (path : String) : List String :=
  match fuel with
  | 0 => []
  | fuel + 1 =>
    match files.lookup true folder path with
    | .ok (place, .folder) =>
      let inner := s.ordered (filesIn s files folder path place)
      let total := inner.foldl (fun n f => n + f.blocks) 0
      let text := (if titled then path ++ ":\n" else "")
        ++ (if s.arrangement = .long || s.blocks then "total " ++ s.blockText total ++ "\n" else "")
        ++ s.show' inner
      let deeper := if s.isRecursive then
          inner.filter fun f => f.kind == .folder && f.name != "." && f.name != ".."
        else []
      text :: deeper.flatMap fun f => folderText s files folder fuel true f.path
    | _ => []

end Listing

def lsWith (first : ListStyle) : Utility := fun c => do
  let p ← Listing.options.of c 2
  let first := { first with
    zone := c.zone
    now := ((← Program.now : Nat) : Int)
    width := ((c.vars.lookup "COLUMNS").bind natural?).getD 80 }
  let s ← p.options.foldlM (fun s (key, value) => Listing.apply c s key value) first
  let files ← Program.files
  let folder ← Program.folder
  let names := if p.operands.isEmpty then ["."] else p.operands
  let mut fine := true
  let mut found := []
  for name in names do
    -- a link that stands as an argument is followed to a folder, except in long lists
    let follows := s.follow || p.has "H"
      || (s.arrangement != .long && !s.showsFolders && s.mark != some '*')
    let direct := Listed.ofPath files folder (s.follow || name.endsWith "/") name name
    let target := Listed.ofPath files folder true name name
    match direct, target with
    | .error e, _ => do
      c.warn ("cannot access " ++ ShellWord.always name ++ ": " ++ e.reason)
      fine := false
    | .ok f, .ok t =>
      found := found ++ [if follows && t.kind == .folder && !s.showsFolders then t else f]
    | .ok f, .error e =>
      if s.follow then do
        c.warn ("cannot access " ++ ShellWord.always name ++ ": " ++ e.reason)
        fine := false
      else found := found ++ [f]
  let (folders, others) := found.partition fun f => f.kind == .folder && !s.showsFolders
  let titled := s.isRecursive || 1 < names.length
  let texts := (if others.isEmpty then [] else [s.show' (s.ordered others)])
    ++ (s.ordered folders).flatMap fun f => Listing.folderText s files folder 1000 titled f.path
  c.put ("\n".intercalate texts)
  pure (if fine then 0 else 2)

def ls : Utility := lsWith {}

def dir : Utility := lsWith { arrangement := .columns, quoting := "escape" }

def vdir : Utility := lsWith { arrangement := .long, quoting := "escape" }

/-! ## All about a file -/

namespace Stat

/-- The text for a letter of a template. -/
def part? (zone : Zone) (f : Listed) (letter : Char) : Option String :=
  let m := momentOf zone f.time
  let exact := m.format "%Y-%m-%d %H:%M:%S.%N %z"
  let kindBits := match f.kind with
    | .file _ => 0o100000
    | .folder => 0o040000
    | .link _ => 0o120000
    | .device _ => 0o020000
  match letter with
  | 'n' => some f.path
  | 'N' => some (ShellWord.always f.path ++ match f.kind with
      | .link target => " -> " ++ ShellWord.always (ByteText.ofText target)
      | _ => "")
  | 's' => some (toString f.size)
  | 'a' => some (String.ofList (Nat.toDigits 8 f.mode))
  | 'A' => some f.permissions
  | 'f' => some (String.ofList (Nat.toDigits 16 (kindBits + f.mode)))
  | 'F' => some (kindText f.kind)
  | 'U' => some "root"
  | 'G' => some "root"
  | 'u' => some "0"
  | 'g' => some "0"
  | 'h' => some (toString f.links)
  | 'i' => some (toString f.inode)
  | 'b' => some (toString f.blocks)
  | 'B' => some "512"
  | 'o' => some "4096"
  | 'd' => some "64"
  | 'D' => some "40"
  | 't' => some (String.ofList (Nat.toDigits 16 f.device.1))
  | 'T' => some (String.ofList (Nat.toDigits 16 f.device.2))
  | 'm' => some "/"
  | 'C' => some "?"
  | 'w' => some exact
  | 'x' => some exact
  | 'y' => some exact
  | 'z' => some exact
  | 'W' => some (toString m.seconds)
  | 'X' => some (toString m.seconds)
  | 'Y' => some (toString m.seconds)
  | 'Z' => some (toString m.seconds)
  | '%' => some "%"
  | _ => none

/-- A template with its letters replaced. Backslashes count only if that is wanted. -/
def fill (escapes : Bool) (part? : Char → Option String) (fuel : Nat) (cs : List Char) : String :=
  match fuel, cs with
  | 0, _ => ""
  | _, [] => ""
  | fuel + 1, '%' :: rest =>
    let flags := rest.takeWhile fun c => "-+ 0#'".toList.contains c
    let digits := (rest.drop flags.length).takeWhile Char.isDigit
    match rest.drop (flags.length + digits.length) with
    | [] => "%"
    | letter :: more =>
      let text := (part? letter).getD "?"
      let width := digits.foldl (fun n c => n * 10 + (c.toNat - 48)) 0
      let text := if flags.contains '-' then padRight width text
        else if flags.contains '0' then "".pushn '0' (width - text.length) ++ text
        else padLeft width text
      text ++ fill escapes part? fuel more
  | fuel + 1, '\x5c' :: c :: rest =>
    let made? : Option Char := if !escapes then none else match c with
      | 'n' => some '\n'
      | 't' => some '\t'
      | 'a' => some '\x07'
      | 'r' => some '\r'
      | '0' => some '\x00'
      | '\x5c' => some '\x5c'
      | '\x22' => some '\x22'
      | _ => none
    match made? with
    | some d => String.singleton d ++ fill escapes part? fuel rest
    | none => "\x5c" ++ fill escapes part? fuel (c :: rest)
  | fuel + 1, c :: rest => String.singleton c ++ fill escapes part? fuel rest

def usual : String :=
  "  File: %N\n  Size: %-10s\tBlocks: %-10b IO Block: %-6o %F\n"
    ++ "Device: 0,%d\tInode: %-11i Links: %h\n"
    ++ "Access: (%04a/%A)  Uid: ( %4u/ %7U)   Gid: ( %4g/ %7G)\n"
    ++ "Access: %x\nModify: %y\nChange: %z\n Birth: %w\n"

end Stat

def stat : Utility := fun c => do
  let options : Options :=
    { short := "c:fLt"
      long := [("dereference", .none, "L"), ("file-system", .none, "f"),
        ("format", .required, "c"), ("printf", .required, "printf"), ("terse", .none, "t"),
        ("cached", .required, "cached")] }
  let p ← options.of c 1
  if p.operands.isEmpty then c.misuse "missing operand" 1
  let files ← Program.files
  let folder ← Program.folder
  let mut fine := true
  for name in p.operands do
    match Listed.ofPath files folder (p.has "L") name name with
    | .error e => do
      c.warn ("cannot statx " ++ ShellWord.always name ++ ": " ++ e.reason)
      fine := false
    | .ok f =>
      let part? := Stat.part? c.zone f
      let fill (escapes : Bool) (template : String) : String :=
        Stat.fill escapes part? (template.length + 1) template.toList
      c.put (match p.last? ["c", "printf"] with
        | some "c" => fill false ((p.value? "c").getD "") ++ "\n"
        | some _ => fill true ((p.value? "printf").getD "")
        | none =>
          if p.has "t" then
            fill false "%n %s %b %f %u %g %D %i %h %t %T %X %Y %Z %W %o" ++ "\n"
          else fill false (Stat.usual.replace "%N" (match f.kind with
            | .link target => f.path ++ " -> " ++ ByteText.ofText target
            | _ => f.path)))
  pure (if fine then 0 else 1)

end HostFleet.Utility
