import HostFleet.Document.Json.Reader
import HostFleet.Document.Json.Writer
import HostFleet.Proofs.Utf8Text

/-!
# JSON text

A document of texts, counts, lists and records, and `null` for what is missing, is read back from
the JSON that it is written as. Its bytes are first cut into the tokens that were put down, and the
tokens are then put together again.
-/

namespace HostFleet.Proofs
open Json

def bytesOf (cs : List Char) : Bytes := cs.flatMap String.utf8EncodeChar

lemma bytesOf_cons (c : Char) (cs : List Char) :
    bytesOf (c :: cs) = String.utf8EncodeChar c ++ bytesOf cs := List.flatMap_cons

lemma bytesOf_append (cs ds : List Char) : bytesOf (cs ++ ds) = bytesOf cs ++ bytesOf ds :=
  List.flatMap_append

/-! ### Strings -/

section Strings

variable {rest : Bytes}

/-- Bytes put in front of what a string holds. -/
def prepend (bs : Bytes) (r : Option Bytes × Bytes) : Option Bytes × Bytes :=
  (r.1.map (bs ++ ·), r.2)

lemma prepend_nil : prepend [] = id := by
  funext r
  obtain ⟨out, tail⟩ := r
  cases out <;> rfl

lemma prepend_append (bs cs : Bytes) : prepend (bs ++ cs) = prepend bs ∘ prepend cs := by
  funext r
  obtain ⟨out, tail⟩ := r
  cases out <;> simp [prepend]

lemma stringBody?_byte {b : UInt8} (hquote : b ≠ 0x22) (hslash : b ≠ 0x5c)
    (hcontrol : 0x20 ≤ b.toNat) :
    stringBody? (b :: rest) = (stringBody? rest).map (prepend [b]) := by
  rw [stringBody?, if_neg (by simpa using hquote), if_neg (by simpa using hslash), if_neg]
  · rfl
  · simp only [UInt8.lt_iff_toNat_lt, UInt8.reduceToNat]
    omega

lemma stringBody?_bytes {bs : Bytes}
    (h : ∀ b ∈ bs, b ≠ 0x22 ∧ b ≠ 0x5c ∧ 0x20 ≤ b.toNat) :
    stringBody? (bs ++ rest) = (stringBody? rest).map (prepend bs) := by
  induction bs with
  | nil => rw [prepend_nil, Option.map_id, List.nil_append, id]
  | cons b bs ih =>
    obtain ⟨hquote, hslash, hcontrol⟩ := h b (.head _)
    rw [List.cons_append, stringBody?_byte hquote hslash hcontrol,
      ih fun b hb => h b (.tail _ hb), Option.map_map, ← prepend_append, List.singleton_append]

lemma stringBody?_escape {bs piece : Bytes} (h : escape? bs = some (some piece, rest)) :
    stringBody? (0x5c :: bs) = (stringBody? rest).map (prepend piece) := by
  rw [stringBody?, if_neg (by decide), if_pos (by decide)]
  split
  · next hnone =>
    rw [h] at hnone
    cases hnone
  · next hsome =>
    rw [h] at hsome
    obtain ⟨hout, hrest⟩ := Prod.mk.inj (Option.some.inj hsome)
    subst hout hrest
    congr 1
    funext r
    obtain ⟨out, tail⟩ := r
    cases out <;> rfl

/-- A hexadecimal digit is one byte, which stands for it. -/
lemma hexDigit_byte (n : Nat) : ∃ b, String.utf8EncodeChar (hexDigit n) = [b] ∧
    hexDigit? b = some (n % 16) := by
  have hall : ∀ m < 16, String.utf8EncodeChar (Nat.digitChar m) =
      [UInt8.ofNat (Nat.digitChar m).toNat] ∧
        hexDigit? (UInt8.ofNat (Nat.digitChar m).toNat) = some m := by decide
  exact ⟨_, hall (n % 16) (Nat.mod_lt n (by decide))⟩

/-- An escape of four digits stands for a control character. -/
lemma escape?_control {c : Char} (h : c.toNat < 32) :
    escape? (bytesOf ['u', '0', '0', hexDigit (c.toNat / 16), hexDigit c.toNat] ++ rest) =
      some (some (String.utf8EncodeChar c), rest) := by
  obtain ⟨a, ha, hhigh⟩ := hexDigit_byte (c.toNat / 16)
  obtain ⟨b, hb, hlow⟩ := hexDigit_byte c.toNat
  have hbytes : bytesOf ['u', '0', '0', hexDigit (c.toNat / 16), hexDigit c.toNat] ++ rest =
      0x75 :: 0x30 :: 0x30 :: a :: b :: rest := by
    rw [bytesOf_cons, bytesOf_cons, bytesOf_cons, bytesOf_cons, bytesOf_cons, ha, hb]
    rfl
  have hzero : hexDigit? 0x30 = some 0 := by decide
  have hvalue : ((0 * 16 + 0) * 16 + c.toNat / 16 % 16) * 16 + c.toNat % 16 = c.toNat := by omega
  have hfour : hexFour? (0x30 :: 0x30 :: a :: b :: rest) = some (c.toNat, rest) := by
    simp only [hexFour?, hzero, hhigh, hlow, Option.bind_eq_bind, Option.bind_some, hvalue]
  rw [hbytes, escape?, hfour]
  dsimp only
  rw [if_neg (by simp; omega), if_neg (by simp; omega), Char.ofNat_toNat]

/-- A character is read as it was escaped. -/
theorem stringBody?_escapeChar (c : Char) :
    stringBody? (bytesOf (escapeChar c) ++ rest) =
      (stringBody? rest).map (prepend (String.utf8EncodeChar c)) := by
  unfold escapeChar
  split
  · next h =>
    subst h
    exact stringBody?_escape rfl
  split
  · next h =>
    subst h
    exact stringBody?_escape rfl
  split
  · next h =>
    subst h
    exact stringBody?_escape rfl
  split
  · next h =>
    subst h
    exact stringBody?_escape rfl
  split
  · next h =>
    subst h
    exact stringBody?_escape rfl
  split
  · next h =>
    obtain rfl : c = Char.ofNat 8 := by rw [← h, Char.ofNat_toNat]
    exact stringBody?_escape rfl
  split
  · next h =>
    obtain rfl : c = Char.ofNat 12 := by rw [← h, Char.ofNat_toNat]
    exact stringBody?_escape rfl
  split
  · next h => exact stringBody?_escape (escape?_control h)
  · next hquote hslash _ _ _ _ _ hcontrol =>
    rw [bytesOf_cons, bytesOf, List.flatMap_nil, List.append_nil]
    refine stringBody?_bytes fun b hb => ?_
    by_cases hascii : c.toNat < 0x80
    · rw [utf8EncodeChar_of_lt hascii, List.mem_singleton] at hb
      have hbyte : b.toNat = c.toNat := by rw [hb, toNat_ofNat (by omega)]
      refine ⟨?_, ?_, by omega⟩
      · rintro rfl
        exact hquote (Char.toNat_inj.mp hbyte.symm)
      · rintro rfl
        exact hslash (Char.toNat_inj.mp hbyte.symm)
    · have hle := le_of_mem_utf8EncodeChar (Nat.le_of_not_lt hascii) b hb
      refine ⟨?_, ?_, by omega⟩
      · rintro rfl
        exact absurd hle (by decide)
      · rintro rfl
        exact absurd hle (by decide)

/-- A string is read to its closing quote. -/
theorem stringBody?_text (cs : List Char) :
    stringBody? (bytesOf (cs.flatMap escapeChar) ++ 0x22 :: rest) =
      some (some (bytesOf cs), rest) := by
  induction cs with
  | nil => rw [List.flatMap_nil, bytesOf, List.flatMap_nil, List.nil_append, stringBody?]; rfl
  | cons c cs ih =>
    rw [List.flatMap_cons, bytesOf_append, List.append_assoc, stringBody?_escapeChar, ih,
      bytesOf_cons]
    rfl

end Strings

/-! ### Tokens -/

section Tokens

variable {rest tail : Bytes} {b : UInt8} {t : Token}

lemma tokens?_token (hspace : isSpace b = false) (h : token? b rest = some (t, tail)) :
    tokens? (b :: rest) = (tokens? tail).map (t :: ·) := by
  rw [tokens?, if_neg (by simp [hspace])]
  split
  · next hnone =>
    rw [h] at hnone
    cases hnone
  · next hsome =>
    rw [h] at hsome
    obtain ⟨rfl, rfl⟩ := Prod.mk.inj (Option.some.inj hsome)
    rfl

lemma tokens?_openList : tokens? (0x5b :: rest) = (tokens? rest).map (.openList :: ·) :=
  tokens?_token (by decide) rfl

lemma tokens?_closeList : tokens? (0x5d :: rest) = (tokens? rest).map (.closeList :: ·) :=
  tokens?_token (by decide) rfl

lemma tokens?_openRecord : tokens? (0x7b :: rest) = (tokens? rest).map (.openRecord :: ·) :=
  tokens?_token (by decide) rfl

lemma tokens?_closeRecord : tokens? (0x7d :: rest) = (tokens? rest).map (.closeRecord :: ·) :=
  tokens?_token (by decide) rfl

lemma tokens?_colon : tokens? (0x3a :: rest) = (tokens? rest).map (.colon :: ·) :=
  tokens?_token (by decide) rfl

lemma tokens?_comma : tokens? (0x2c :: rest) = (tokens? rest).map (.comma :: ·) :=
  tokens?_token (by decide) rfl

lemma tokens?_writeText (s : String) :
    tokens? (bytesOf (writeText s) ++ rest) = (tokens? rest).map (.text (some s) :: ·) := by
  have hbytes : bytesOf (writeText s) ++ rest =
      0x22 :: (bytesOf (s.toList.flatMap escapeChar) ++ 0x22 :: rest) := by
    have hquote : String.utf8EncodeChar '\x22' = [0x22] := by decide
    simp [writeText, bytesOf, hquote]
  rw [hbytes]
  refine tokens?_token (by decide) ?_
  have hdecode : Utf8.decode? (bytesOf s.toList) = some s := decode?_encode s
  rw [token?]
  simp [stringBody?_text, hdecode]

/-- The bytes that can follow a value. -/
def Stops (rest : Bytes) : Prop := ∀ b ∈ rest.head?, b = 0x2c ∨ b = 0x5d ∨ b = 0x7d

lemma tokens?_null (h : Stops rest) :
    tokens? (bytesOf (write .null) ++ rest) = (tokens? rest).map (.scalar .null :: ·) := by
  have hletters : rest.takeWhile isLetter = [] ∧ rest.dropWhile isLetter = rest := by
    cases rest with
    | nil => exact ⟨rfl, rfl⟩
    | cons b rest =>
      have hb : isLetter b = false := by
        rcases h b rfl with rfl | rfl | rfl <;> decide
      exact ⟨by simp [hb], by simp [hb]⟩
  have hbytes : bytesOf (write .null) = [0x6e, 0x75, 0x6c, 0x6c] := by decide
  rw [hbytes]
  refine tokens?_token (by decide) ?_
  have hnull : ∀ b ∈ [0x75, 0x6c, 0x6c], isLetter b = true := List.all_eq_true.mp rfl
  have htake : ([0x75, 0x6c, 0x6c] ++ rest).takeWhile isLetter = [0x75, 0x6c, 0x6c] := by
    rw [List.takeWhile_append_of_pos hnull, hletters.1, List.append_nil]
  have hdrop : ([0x75, 0x6c, 0x6c] ++ rest).dropWhile isLetter = rest := by
    rw [List.dropWhile_append_of_pos hnull, hletters.2]
  have hname : name? [0x6e, 0x75, 0x6c, 0x6c] = some .null := by rfl
  change (name? (0x6e :: ([0x75, 0x6c, 0x6c] ++ rest).takeWhile isLetter)).map
    (fun d => (Token.scalar d, ([0x75, 0x6c, 0x6c] ++ rest).dropWhile isLetter)) = _
  rw [htake, hdrop, hname, Option.map_some]

end Tokens

/-! ### Numbers -/

section Numbers

variable {rest : Bytes} {cs : List Char} {n : Nat}

/-- The byte of a digit. -/
def digitByte (c : Char) : UInt8 := UInt8.ofNat c.toNat

lemma toNat_digit {c : Char} (h : c.isDigit = true) : 48 ≤ c.toNat ∧ c.toNat ≤ 57 := by
  simpa [Char.isDigit, UInt32.le_iff_toNat_le] using h

lemma toNat_digitByte {c : Char} (h : c.isDigit = true) : (digitByte c).toNat = c.toNat :=
  toNat_ofNat (by have := toNat_digit h; omega)

lemma isDigit_digitByte {c : Char} (h : c.isDigit = true) : isDigit (digitByte c) = true := by
  have hdigit := toNat_digit h
  simp only [isDigit, Bool.and_eq_true, decide_eq_true_eq, UInt8.le_iff_toNat_le,
    toNat_digitByte h, UInt8.reduceToNat]
  omega

lemma bytesOf_digits (h : ∀ c ∈ cs, c.isDigit = true) : bytesOf cs = cs.map digitByte := by
  induction cs with
  | nil => rfl
  | cons c cs ih =>
    have hdigit := toNat_digit (h c (.head _))
    rw [bytesOf_cons, ih fun d hd => h d (.tail _ hd), utf8EncodeChar_of_lt (by omega),
      List.singleton_append, List.map_cons, digitByte]

lemma digitsValue_map (h : ∀ c ∈ cs, c.isDigit = true) :
    digitsValue (cs.map digitByte) = Nat.ofDigitChars 10 cs 0 := by
  have hfold : ∀ m, (cs.map digitByte).foldl (fun n d => n * 10 + (d.toNat - 0x30)) m =
      Nat.ofDigitChars 10 cs m := by
    induction cs with
    | nil => exact fun _ => rfl
    | cons c cs ih =>
      intro m
      rw [List.map_cons, List.foldl_cons, ih fun d hd => h d (.tail _ hd),
        Nat.ofDigitChars_cons, toNat_digitByte (h c (.head _)), Nat.mul_comm]
      rfl
  exact hfold 0

/-- Only the number zero begins with a zero. -/
lemma head?_toDigits (h : 0 < n) : (Nat.toDigits 10 n).head? ≠ some '0' := by
  induction n using Nat.base_induction 10 (by decide) with
  | single m hm =>
    rw [Nat.toDigits_of_lt_base hm]
    have hall : ∀ m < 10, 0 < m → [Nat.digitChar m].head? ≠ some '0' := by decide
    exact hall m hm h
  | digit m k hk hm ih =>
    rw [← Nat.toDigits_append_toDigits (by decide) hm hk,
      List.head?_append_of_ne_nil _ Nat.toDigits_ne_nil]
    exact ih hm

lemma isDigit_toDigits : ∀ c ∈ Nat.toDigits 10 n, c.isDigit = true :=
  fun _ hc => Nat.isDigit_of_mem_toDigits (by decide) (by decide) hc

/-- The bytes of a number. -/
def numberBytes (n : Nat) : Bytes := (Nat.toDigits 10 n).map digitByte

lemma isDigit_of_mem_numberBytes : ∀ b ∈ numberBytes n, isDigit b = true := by
  intro b hb
  obtain ⟨c, hc, rfl⟩ := List.mem_map.mp hb
  exact isDigit_digitByte (isDigit_toDigits c hc)

lemma exists_numberBytes (n : Nat) : ∃ b bs, numberBytes n = b :: bs :=
  List.exists_cons_of_ne_nil (by simp [numberBytes, Nat.toDigits_ne_nil])

/-- No number of several digits begins with a zero. -/
lemma numberBytes_zero {bs : Bytes} (h : numberBytes n = 0x30 :: bs) : bs = [] := by
  rcases Nat.eq_zero_or_pos n with rfl | hn
  · rw [numberBytes, Nat.toDigits_zero] at h
    exact (List.cons.inj h).2.symm
  · obtain ⟨c, cs, hcs⟩ := List.exists_cons_of_ne_nil (Nat.toDigits_ne_nil (n := n) (b := 10))
    have hc : c.isDigit = true := isDigit_toDigits c (by rw [hcs]; exact .head _)
    rw [numberBytes, hcs, List.map_cons] at h
    have hbyte := congrArg UInt8.toNat (List.cons.inj h).1
    rw [toNat_digitByte hc] at hbyte
    obtain rfl : c = '0' := Char.toNat_inj.mp hbyte
    exact absurd (by rw [hcs]; rfl) (head?_toDigits hn)

lemma wholePart?_numberBytes (n : Nat) : wholePart? (numberBytes n) = some (numberBytes n, []) := by
  have htake : (numberBytes n).takeWhile isDigit = numberBytes n :=
    List.takeWhile_eq_self_iff.mpr isDigit_of_mem_numberBytes
  have hdrop : (numberBytes n).dropWhile isDigit = [] :=
    List.dropWhile_eq_nil_iff.mpr isDigit_of_mem_numberBytes
  obtain ⟨b, bs, hbs⟩ := exists_numberBytes n
  have hdigits : digits? (numberBytes n) = some (numberBytes n, []) := by
    rw [digits?, htake, hdrop, hbs]
  have hlead : ¬ (decide ((numberBytes n).length > 1) && (numberBytes n).head? == some 0x30) := by
    rw [hbs]
    simp only [Bool.and_eq_true, decide_eq_true_eq, List.head?_cons, beq_iff_eq, not_and]
    rintro hlength ⟨⟩
    rw [numberBytes_zero hbs] at hlength
    exact absurd hlength (by decide)
  rw [wholePart?, hdigits]
  simp only [Option.bind_eq_bind, Option.bind_some]
  rw [if_neg hlead]

lemma number?_numberBytes (n : Nat) : number? (numberBytes n) = some (.int n) := by
  have hvalue : digitsValue (numberBytes n) = n := by
    rw [numberBytes, digitsValue_map isDigit_toDigits, Nat.ofDigitChars_ten_toDigits]
  have hsign : ∀ bs, numberBytes n ≠ 0x2d :: bs := by
    intro bs hbs
    have hdigit := isDigit_of_mem_numberBytes (n := n) 0x2d (by rw [hbs]; exact .head _)
    exact absurd hdigit (by decide)
  rw [number?]
  · simp [wholePart?_numberBytes, skipFraction?, skipExponent?, hvalue]
  · exact hsign

lemma ne_of_isDigit {b k : UInt8} (hb : isDigit b = true) (hk : isDigit k = false) :
    (b == k) = false := by
  rw [beq_eq_false_iff_ne]
  rintro rfl
  rw [hk] at hb
  cases hb

lemma isSpace_digit {b : UInt8} (hb : isDigit b = true) : isSpace b = false := by
  have hne : ∀ k : UInt8, isDigit k = false → (b == k) = false := fun _ => ne_of_isDigit hb
  simp only [isSpace, hne 0x20 rfl, hne 0x0a rfl, hne 0x09 rfl, hne 0x0d rfl, Bool.or_false]

lemma token?_digit {b : UInt8} (hb : isDigit b = true) : token? b rest =
    (number? (b :: rest.takeWhile isNumeric)).map
      fun d => (.scalar d, rest.dropWhile isNumeric) := by
  have hne : ∀ k : UInt8, isDigit k = false → (b == k) = false := fun _ => ne_of_isDigit hb
  simp only [token?, hne 0x5b rfl, hne 0x5d rfl, hne 0x7b rfl, hne 0x7d rfl, hne 0x3a rfl,
    hne 0x2c rfl, hne 0x22 rfl, hb, Bool.true_or, if_true, Bool.false_eq_true, if_false]

/-- A number is read up to what cannot belong to it. -/
lemma tokens?_count (n : Nat) (h : Stops rest) :
    tokens? (bytesOf (write (.int n)) ++ rest) = (tokens? rest).map (.scalar (.int n) :: ·) := by
  have hbytes : bytesOf (write (.int n)) = numberBytes n := by
    have hrepr : toString (n : Int) = n.repr := rfl
    rw [write_int, hrepr, Nat.toList_repr, bytesOf_digits isDigit_toDigits, numberBytes]
  have hnumeric : rest.takeWhile isNumeric = [] ∧ rest.dropWhile isNumeric = rest := by
    cases rest with
    | nil => exact ⟨rfl, rfl⟩
    | cons b rest =>
      have hb : isNumeric b = false := by
        rcases h b rfl with rfl | rfl | rfl <;> decide
      exact ⟨by simp [hb], by simp [hb]⟩
  obtain ⟨b, bs, hbs⟩ := exists_numberBytes n
  have hdigits : ∀ d ∈ b :: bs, isDigit d = true := hbs ▸ isDigit_of_mem_numberBytes
  have hall : ∀ d ∈ bs, isNumeric d = true := by
    intro d hd
    rw [isNumeric, hdigits d (.tail _ hd)]
    rfl
  have htake : (bs ++ rest).takeWhile isNumeric = bs := by
    rw [List.takeWhile_append_of_pos hall, hnumeric.1, List.append_nil]
  have hdrop : (bs ++ rest).dropWhile isNumeric = rest := by
    rw [List.dropWhile_append_of_pos hall, hnumeric.2]
  rw [hbytes, hbs, List.cons_append]
  refine tokens?_token (isSpace_digit (hdigits b (.head _))) ?_
  rw [token?_digit (hdigits b (.head _)), htake, hdrop, ← hbs, number?_numberBytes]
  rfl

end Numbers

/-! ### Documents -/

/-- A document of texts, counts, lists and records, with `null` for what is missing. -/
inductive Plain : Document → Prop where
  | null : Plain .null
  | count (n : Nat) : Plain (.int n)
  | text (s : String) : Plain (.text s)
  | list {items : List Document} (h : ∀ d ∈ items, Plain d) : Plain (.list items)
  | record {members : List (String × Document)} (h : ∀ m ∈ members, Plain m.2) :
    Plain (.record members)

/-- The bytes are cut into the tokens, whatever may follow a value. -/
def Lexes (bs : Bytes) (ts : List Token) : Prop :=
  ∀ rest, Stops rest → tokens? (bs ++ rest) = (tokens? rest).map (ts ++ ·)

/-- The characters are cut into tokens that are put together to the document. -/
def Spells (cs : List Char) (d : Document) : Prop :=
  ∃ t ts, t ≠ .closeList ∧ Lexes (bytesOf cs) (t :: ts) ∧
    ∀ rest stack, readValue (t :: ts ++ rest) stack = readAfter rest d stack

lemma spells_null : Spells (write .null) .null := by
  refine ⟨.scalar .null, [], nofun, fun rest h => ?_, fun rest stack => ?_⟩
  · rw [tokens?_null h]
    rfl
  · rw [List.cons_append, readValue_scalar, List.nil_append]

lemma spells_count (n : Nat) : Spells (write (.int n)) (.int n) := by
  refine ⟨.scalar (.int n), [], nofun, fun rest h => ?_, fun rest stack => ?_⟩
  · rw [tokens?_count n h]
    rfl
  · rw [List.cons_append, readValue_scalar, List.nil_append]

lemma spells_text (s : String) : Spells (write (.text s)) (.text s) := by
  refine ⟨.text (some s), [], nofun, fun rest _ => ?_, fun rest stack => ?_⟩
  · rw [write, tokens?_writeText]
    rfl
  · rw [List.cons_append, readValue, List.nil_append]
    rfl

lemma stops_comma {rest : Bytes} : Stops (0x2c :: rest) := fun _ h => .inl (Option.some.inj h).symm

/-- The items of an open list, which has some before them, are read up to its end. -/
lemma spells_items {d : Document} {items : List Document}
    (h : ∀ d' ∈ d :: items, Spells (write d') d') :
    ∃ t ts, t ≠ .closeList ∧ Lexes (bytesOf (writeItems (d :: items))) (t :: ts) ∧
      ∀ rest acc stack, readValue (t :: ts ++ .closeList :: rest) (.list acc :: stack) =
        readAfter rest (.list (acc.reverse ++ d :: items)) stack := by
  induction items generalizing d with
  | nil =>
    obtain ⟨t, ts, hopen, hlexes, hread⟩ := h d (.head _)
    refine ⟨t, ts, hopen, ?_, fun rest acc stack => ?_⟩
    · rw [writeItems]
      exact hlexes
    · rw [hread, readAfter, List.reverse_cons]
  | cons next items ih =>
    obtain ⟨t, ts, hopen, hlexes, hread⟩ := h d (.head _)
    obtain ⟨t', ts', -, hlexes', hread'⟩ := ih fun d' hd' => h d' (.tail _ hd')
    refine ⟨t, ts ++ .comma :: t' :: ts', hopen, fun rest hrest => ?_, fun rest acc stack => ?_⟩
    · have hbytes : bytesOf (writeItems (d :: next :: items)) ++ rest =
          bytesOf (write d) ++ 0x2c :: (bytesOf (writeItems (next :: items)) ++ rest) := by
        have hcomma : String.utf8EncodeChar ',' = [0x2c] := by decide
        rw [writeItems, bytesOf_append, bytesOf_cons, hcomma]
        · simp
        · nofun
      rw [hbytes, hlexes _ stops_comma, tokens?_comma, hlexes' rest hrest]
      simp [Function.comp_def]
    · have htokens : t :: (ts ++ .comma :: t' :: ts') ++ .closeList :: rest =
          t :: ts ++ .comma :: (t' :: ts' ++ .closeList :: rest) := by simp
      rw [htokens, hread, readAfter, hread']
      simp

lemma spells_list {items : List Document} (h : ∀ d ∈ items, Spells (write d) d) :
    Spells (write (.list items)) (.list items) := by
  have hopen : String.utf8EncodeChar '[' = [0x5b] := by decide
  have hclose : String.utf8EncodeChar ']' = [0x5d] := by decide
  cases items with
  | nil =>
    refine ⟨.openList, [.closeList], nofun, fun rest _ => ?_, fun rest stack => ?_⟩
    · have hbytes : bytesOf (write (.list [])) ++ rest = 0x5b :: 0x5d :: rest := rfl
      rw [hbytes, tokens?_openList, tokens?_closeList]
      simp [Function.comp_def]
    · simp only [List.cons_append, List.nil_append]
      rw [readValue]
  | cons d items =>
    obtain ⟨t, ts, hne, hlexes, hread⟩ := spells_items h
    refine ⟨.openList, t :: ts ++ [.closeList], nofun, fun rest _ => ?_, fun rest stack => ?_⟩
    · have hbytes : bytesOf (write (.list (d :: items))) ++ rest =
          0x5b :: (bytesOf (writeItems (d :: items)) ++ 0x5d :: rest) := by
        simp [write, hopen, hclose, bytesOf]
      rw [hbytes, tokens?_openList, hlexes _ (by rintro b ⟨⟩; exact .inr (.inl rfl)),
        tokens?_closeList]
      simp [Function.comp_def]
    · have htokens : Token.openList :: (t :: ts ++ [.closeList]) ++ rest =
          .openList :: t :: (ts ++ .closeList :: rest) := by simp
      rw [htokens, readValue]
      · have hitems := hread rest [] stack
        rwa [List.reverse_nil, List.nil_append] at hitems
      · intro tail htail
        exact hne (List.cons.inj htail).1

/-- Members as they stand in an open record, last first. -/
def framed (members : List (String × Document)) : List (Option String × Document) :=
  (members.map fun m => (some m.1, m.2)).reverse

lemma closeMembers_framed (members : List (String × Document)) :
    closeMembers (framed members) = .record members := by
  have hall : (members.map fun m => (some m.1, m.2)).mapM
      (fun m : Option String × Document => m.1.map (·, m.2)) = some members := by
    induction members with
    | nil => rfl
    | cons m members ih => simp [ih]
  rw [closeMembers, framed, List.reverse_reverse, hall]

/-- The members of an open record, which has some before them, are read up to its end. -/
lemma spells_members {name : String} {d : Document} {members : List (String × Document)}
    (h : ∀ m ∈ (name, d) :: members, Spells (write m.2) m.2) :
    ∃ ts, Lexes (bytesOf (writeMembers ((name, d) :: members)))
        (.text (some name) :: .colon :: ts) ∧
      ∀ rest before stack,
        readValue (ts ++ .closeRecord :: rest) (.record (framed before) (some name) :: stack) =
          readAfter rest (.record (before ++ (name, d) :: members)) stack := by
  have hcolon : String.utf8EncodeChar ':' = [0x3a] := by decide
  induction members generalizing name d with
  | nil =>
    obtain ⟨t, ts, -, hlexes, hread⟩ := h (name, d) (.head _)
    refine ⟨t :: ts, fun rest hrest => ?_, fun rest before stack => ?_⟩
    · have hbytes : bytesOf (writeMembers [(name, d)]) ++ rest =
          bytesOf (writeText name) ++ 0x3a :: (bytesOf (write d) ++ rest) := by
        simp [writeMembers, writeMember, bytesOf_append, bytesOf_cons, hcolon]
      rw [hbytes, tokens?_writeText, tokens?_colon, hlexes rest hrest]
      simp [Function.comp_def]
    · rw [hread, readAfter, ← closeMembers_framed]
      simp [framed]
  | cons next members ih =>
    obtain ⟨name', d'⟩ := next
    obtain ⟨t, ts, -, hlexes, hread⟩ := h (name, d) (.head _)
    obtain ⟨ts', hlexes', hread'⟩ := ih fun m hm => h m (.tail _ hm)
    refine ⟨t :: ts ++ .comma :: .text (some name') :: .colon :: ts', fun rest hrest => ?_,
      fun rest before stack => ?_⟩
    · have hbytes : bytesOf (writeMembers ((name, d) :: (name', d') :: members)) ++ rest =
          bytesOf (writeText name) ++ 0x3a :: (bytesOf (write d) ++
            0x2c :: (bytesOf (writeMembers ((name', d') :: members)) ++ rest)) := by
        have hcomma : String.utf8EncodeChar ',' = [0x2c] := by decide
        rw [writeMembers, bytesOf_append, bytesOf_cons, hcomma, writeMember, bytesOf_append,
          bytesOf_cons, hcolon]
        · simp
        · nofun
      rw [hbytes, tokens?_writeText, tokens?_colon, hlexes _ stops_comma, tokens?_comma,
        hlexes' rest hrest]
      simp [Function.comp_def]
    · have htokens : (t :: ts ++ .comma :: .text (some name') :: .colon :: ts') ++
          .closeRecord :: rest =
            t :: ts ++ .comma :: .text (some name') :: .colon :: (ts' ++ .closeRecord :: rest) := by
        simp
      have hframe : (some name, d) :: framed before = framed (before ++ [(name, d)]) := by
        simp [framed]
      rw [htokens, hread, readAfter, hframe, hread']
      simp

lemma spells_record {members : List (String × Document)}
    (h : ∀ m ∈ members, Spells (write m.2) m.2) :
    Spells (write (.record members)) (.record members) := by
  have hopen : String.utf8EncodeChar '\x7b' = [0x7b] := by decide
  have hclose : String.utf8EncodeChar '\x7d' = [0x7d] := by decide
  cases members with
  | nil =>
    refine ⟨.openRecord, [.closeRecord], nofun, fun rest _ => ?_, fun rest stack => ?_⟩
    · have hbytes : bytesOf (write (.record [])) ++ rest = 0x7b :: 0x7d :: rest := rfl
      rw [hbytes, tokens?_openRecord, tokens?_closeRecord]
      simp [Function.comp_def]
    · simp only [List.cons_append, List.nil_append]
      rw [readValue]
  | cons m members =>
    obtain ⟨name, d⟩ := m
    obtain ⟨ts, hlexes, hread⟩ := spells_members h
    refine ⟨.openRecord, .text (some name) :: .colon :: ts ++ [.closeRecord], nofun,
      fun rest _ => ?_, fun rest stack => ?_⟩
    · have hbytes : bytesOf (write (.record ((name, d) :: members))) ++ rest =
          0x7b :: (bytesOf (writeMembers ((name, d) :: members)) ++ 0x7d :: rest) := by
        simp [write, hopen, hclose, bytesOf]
      rw [hbytes, tokens?_openRecord, hlexes _ (by rintro b ⟨⟩; exact .inr (.inr rfl)),
        tokens?_closeRecord]
      simp [Function.comp_def]
    · have htokens : Token.openRecord :: (.text (some name) :: .colon :: ts ++ [.closeRecord]) ++
          rest = .openRecord :: .text (some name) :: .colon :: (ts ++ .closeRecord :: rest) := by
        simp
      rw [htokens, readValue]
      exact hread rest [] stack

/-- Every plain document is spelt by what is written for it. -/
theorem spells_of_plain {d : Document} (h : Plain d) : Spells (write d) d := by
  induction h with
  | null => exact spells_null
  | count n => exact spells_count n
  | text s => exact spells_text s
  | list _ ih => exact spells_list ih
  | record _ ih => exact spells_record ih

/-- A plain document is read back from its JSON. -/
theorem read?_encode {d : Document} (h : Plain d) : Json.read? (Json.encode d) = some d := by
  obtain ⟨t, ts, -, hlexes, hread⟩ := spells_of_plain h
  have htokens : tokens? (Json.encode d) = some (t :: ts) := by
    have hend := hlexes [] nofun
    rw [List.append_nil, tokens?] at hend
    rw [Json.encode, Utf8.encode, String.toList_ofList]
    exact hend.trans (by simp)
  have hvalue := hread [] []
  rw [List.append_nil, readAfter] at hvalue
  rw [Json.read?, htokens]
  exact hvalue

end HostFleet.Proofs
