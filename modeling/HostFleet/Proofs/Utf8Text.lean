import HostFleet.Run.Output
import Mathlib

/-!
# Text and its bytes

Text that was encoded is decoded again, character by character. Only characters below U+0080 have
bytes below 0x80. No byte but a newline is decoded as one, whatever the bytes are. The order of texts
by their characters is that by their bytes.
-/

namespace HostFleet.Proofs
open Utf8

/-! ### First bytes -/

lemma toNat_ofNat {n : Nat} (h : n < 256) : (UInt8.ofNat n).toNat = n :=
  UInt8.toNat_ofNat_of_lt' h

section Lead

variable {b : UInt8}

lemma lead?_two (h : 0xc2 ≤ b.toNat ∧ b.toNat ≤ 0xdf) : lead? b = some (2, 0x80, 0xbf) := by
  rw [lead?, if_pos]
  simp only [Bool.and_eq_true, decide_eq_true_eq, UInt8.le_iff_toNat_le]
  exact h

lemma ne_of_toNat_ne {b b' : UInt8} (h : b.toNat ≠ b'.toNat) : b ≠ b' :=
  fun heq => h (congrArg UInt8.toNat heq)

/-- The second of three bytes is in range unless the form is overlong or a surrogate. -/
lemma lead?_three (h : 0xe0 ≤ b.toNat ∧ b.toNat ≤ 0xef) {c : UInt8}
    (hc : 0x80 ≤ c.toNat ∧ c.toNat ≤ 0xbf) (hlong : b.toNat = 0xe0 → 0xa0 ≤ c.toNat)
    (hhalf : b.toNat = 0xed → c.toNat ≤ 0x9f) :
    ∃ lo hi, lead? b = some (3, lo, hi) ∧ lo ≤ c ∧ c ≤ hi := by
  simp only [UInt8.le_iff_toNat_le]
  by_cases he0 : b = 0xe0
  · subst he0
    exact ⟨_, _, rfl, hlong rfl, hc.2⟩
  by_cases hed : b = 0xed
  · subst hed
    exact ⟨_, _, rfl, hc.1, hhalf rfl⟩
  refine ⟨0x80, 0xbf, ?_, hc⟩
  have hne0 : b.toNat ≠ 0xe0 := fun heq => he0 (UInt8.toNat_inj.mp heq)
  rw [lead?, if_neg, if_neg (by simpa using he0), if_neg (by simpa using hed), if_pos]
  · simp only [Bool.and_eq_true, decide_eq_true_eq, UInt8.le_iff_toNat_le, UInt8.reduceToNat]
    omega
  · simp only [Bool.and_eq_true, decide_eq_true_eq, UInt8.le_iff_toNat_le, UInt8.reduceToNat]
    omega

/-- The second of four bytes is in range unless the form is overlong or too great. -/
lemma lead?_four (h : 0xf0 ≤ b.toNat ∧ b.toNat ≤ 0xf4) {c : UInt8}
    (hc : 0x80 ≤ c.toNat ∧ c.toNat ≤ 0xbf) (hlong : b.toNat = 0xf0 → 0x90 ≤ c.toNat)
    (hgreat : b.toNat = 0xf4 → c.toNat ≤ 0x8f) :
    ∃ lo hi, lead? b = some (4, lo, hi) ∧ lo ≤ c ∧ c ≤ hi := by
  simp only [UInt8.le_iff_toNat_le]
  by_cases hf0 : b = 0xf0
  · subst hf0
    exact ⟨_, _, rfl, hlong rfl, hc.2⟩
  by_cases hf4 : b = 0xf4
  · subst hf4
    exact ⟨_, _, rfl, hc.1, hgreat rfl⟩
  refine ⟨0x80, 0xbf, ?_, hc⟩
  have hne0 : b.toNat ≠ 0xf0 := fun heq => hf0 (UInt8.toNat_inj.mp heq)
  have hne4 : b.toNat ≠ 0xf4 := fun heq => hf4 (UInt8.toNat_inj.mp heq)
  have hlow : ∀ k : UInt8, k.toNat < 0xf0 → b ≠ k := fun k hk =>
    ne_of_toNat_ne (Nat.ne_of_gt (Nat.lt_of_lt_of_le hk h.1))
  rw [lead?, if_neg, if_neg (by simpa using hlow 0xe0 (by decide)),
    if_neg (by simpa using hlow 0xed (by decide)), if_neg, if_neg (by simpa using hf0), if_pos]
  · simp only [Bool.and_eq_true, decide_eq_true_eq, UInt8.le_iff_toNat_le, UInt8.reduceToNat]
    omega
  · simp only [Bool.and_eq_true, decide_eq_true_eq, UInt8.le_iff_toNat_le, UInt8.reduceToNat]
    omega
  · simp only [Bool.and_eq_true, decide_eq_true_eq, UInt8.le_iff_toNat_le, UInt8.reduceToNat]
    omega

end Lead

/-! ### Characters -/

lemma isContinuation_iff {b : UInt8} :
    isContinuation b = true ↔ 0x80 ≤ b.toNat ∧ b.toNat ≤ 0xbf := by
  simp only [isContinuation, Bool.and_eq_true, decide_eq_true_eq, UInt8.le_iff_toNat_le,
    UInt8.reduceToNat]

section Next

variable {b c d e : UInt8} {rest : Bytes}

lemma next_one (h : b.toNat < 0x80) : next b rest = (some (Char.ofNat b.toNat), rest) := by
  unfold next
  rw [if_pos (UInt8.lt_iff_toNat_lt.mpr h)]

lemma not_lt_0x80 (h : 0x80 ≤ b.toNat) : ¬b < 0x80 := by
  simp only [UInt8.lt_iff_toNat_lt, UInt8.reduceToNat]
  omega

lemma next_two (h : 0xc2 ≤ b.toNat ∧ b.toNat ≤ 0xdf) (hc : 0x80 ≤ c.toNat ∧ c.toNat ≤ 0xbf) :
    next b (c :: rest) = (some (Char.ofNat (b.toNat % 32 * 64 + payload c)), rest) := by
  have hrange : (decide (0x80 ≤ c) && decide (c ≤ 0xbf)) = true := isContinuation_iff.mpr hc
  simp only [next, if_neg (not_lt_0x80 (b := b) (by omega)), lead?_two h, hrange, Bool.not_true,
    Bool.false_eq_true, if_false, if_true]

lemma next_three (h : 0xe0 ≤ b.toNat ∧ b.toNat ≤ 0xef)
    (hc : 0x80 ≤ c.toNat ∧ c.toNat ≤ 0xbf) (hlong : b.toNat = 0xe0 → 0xa0 ≤ c.toNat)
    (hhalf : b.toNat = 0xed → c.toNat ≤ 0x9f) (hd : 0x80 ≤ d.toNat ∧ d.toNat ≤ 0xbf) :
    next b (c :: d :: rest) =
      (some (Char.ofNat ((b.toNat % 16 * 64 + payload c) * 64 + payload d)), rest) := by
  obtain ⟨lo, hi, hlead, hlo, hhi⟩ := lead?_three h hc hlong hhalf
  simp [next, not_lt_0x80 (b := b) (by omega), hlead, hlo, hhi, isContinuation_iff.mpr hd]

lemma next_four (h : 0xf0 ≤ b.toNat ∧ b.toNat ≤ 0xf4)
    (hc : 0x80 ≤ c.toNat ∧ c.toNat ≤ 0xbf) (hlong : b.toNat = 0xf0 → 0x90 ≤ c.toNat)
    (hgreat : b.toNat = 0xf4 → c.toNat ≤ 0x8f) (hd : 0x80 ≤ d.toNat ∧ d.toNat ≤ 0xbf)
    (he : 0x80 ≤ e.toNat ∧ e.toNat ≤ 0xbf) :
    next b (c :: d :: e :: rest) =
      (some (Char.ofNat
        (((b.toNat % 8 * 64 + payload c) * 64 + payload d) * 64 + payload e)), rest) := by
  obtain ⟨lo, hi, hlead, hlo, hhi⟩ := lead?_four h hc hlong hgreat
  simp [next, not_lt_0x80 (b := b) (by omega), hlead, hlo, hhi, isContinuation_iff.mpr hd,
    isContinuation_iff.mpr he]

end Next

lemma ofNat_toNat (c : Char) : Char.ofNat c.val.toNat = c := Char.ofNat_toNat c

/-- The bytes of a character are read as it, whatever follows. -/
theorem scan_utf8EncodeChar (c : Char) (rest : Bytes) :
    scan (String.utf8EncodeChar c ++ rest) = some c :: scan rest := by
  have hvalid : c.val.toNat < 0xd800 ∨ 0xdfff < c.val.toNat ∧ c.val.toNat < 0x110000 := c.valid
  have hc := ofNat_toNat c
  generalize hn : c.val.toNat = n at hvalid hc
  simp only [String.utf8EncodeChar, hn]
  split
  · have hbyte := toNat_ofNat (n := n) (by omega)
    rw [List.singleton_append, scan, next_one (by omega), hbyte, hc]
  split
  · have hb := toNat_ofNat (n := n / 64 % 32 + 0xc0) (by omega)
    have hd := toNat_ofNat (n := n % 64 + 0x80) (by omega)
    simp only [List.cons_append, List.nil_append]
    rw [scan, next_two (by omega) (by omega), payload, hb, hd]
    have hvalue : (n / 64 % 32 + 0xc0) % 32 * 64 + (n % 64 + 0x80) % 64 = n := by omega
    rw [hvalue, hc]
  split
  · have hb := toNat_ofNat (n := n / 4096 % 16 + 0xe0) (by omega)
    have hd := toNat_ofNat (n := n / 64 % 64 + 0x80) (by omega)
    have he := toNat_ofNat (n := n % 64 + 0x80) (by omega)
    simp only [List.cons_append, List.nil_append]
    rw [scan, next_three (by omega) (by omega) (by omega) (by omega) (by omega), payload, payload,
      hb, hd, he]
    have hvalue : ((n / 4096 % 16 + 0xe0) % 16 * 64 + (n / 64 % 64 + 0x80) % 64) * 64 +
        (n % 64 + 0x80) % 64 = n := by omega
    rw [hvalue, hc]
  · have hb := toNat_ofNat (n := n / 262144 % 8 + 0xf0) (by omega)
    have hd := toNat_ofNat (n := n / 4096 % 64 + 0x80) (by omega)
    have he := toNat_ofNat (n := n / 64 % 64 + 0x80) (by omega)
    have hf := toNat_ofNat (n := n % 64 + 0x80) (by omega)
    simp only [List.cons_append, List.nil_append]
    rw [scan, next_four (by omega) (by omega) (by omega) (by omega) (by omega) (by omega), payload,
      payload, payload, hb, hd, he, hf]
    have hvalue : (((n / 262144 % 8 + 0xf0) % 8 * 64 + (n / 4096 % 64 + 0x80) % 64) * 64 +
        (n / 64 % 64 + 0x80) % 64) * 64 + (n % 64 + 0x80) % 64 = n := by omega
    rw [hvalue, hc]

lemma scan_flatMap (cs : List Char) : scan (cs.flatMap String.utf8EncodeChar) = cs.map some := by
  induction cs with
  | nil =>
    rw [List.flatMap_nil, scan]
    rfl
  | cons c cs ih => rw [List.flatMap_cons, scan_utf8EncodeChar, ih, List.map_cons]

/-- Encoded text is decoded as it was. -/
theorem decode?_encode (s : String) : decode? (encode s) = some s := by
  have hall : ∀ cs : List Char, (cs.map some).mapM id = some cs := by
    intro cs
    induction cs with
    | nil => rfl
    | cons c cs ih => simp [ih]
  rw [decode?, encode, scan_flatMap, hall, Option.map_some, String.ofList_toList]

/-- The bytes of a character beyond ASCII are all beyond it. -/
theorem le_of_mem_utf8EncodeChar {c : Char} (h : 0x80 ≤ c.toNat) :
    ∀ b ∈ String.utf8EncodeChar c, 0x80 ≤ b.toNat := by
  have hvalid : c.val.toNat < 0xd800 ∨ 0xdfff < c.val.toNat ∧ c.val.toNat < 0x110000 := c.valid
  change 0x80 ≤ c.val.toNat at h
  generalize hn : c.val.toNat = n at h hvalid
  have hbyte : ∀ k, 0x80 ≤ k → k < 256 → 0x80 ≤ (UInt8.ofNat k).toNat := by
    intro k hlow hhigh
    rwa [toNat_ofNat hhigh]
  simp only [String.utf8EncodeChar, hn]
  intro b hb
  split at hb
  · omega
  split at hb
  · simp only [List.mem_cons, List.not_mem_nil, or_false] at hb
    rcases hb with rfl | rfl
    all_goals exact hbyte _ (by omega) (by omega)
  split at hb
  · simp only [List.mem_cons, List.not_mem_nil, or_false] at hb
    rcases hb with rfl | rfl | rfl
    all_goals exact hbyte _ (by omega) (by omega)
  · simp only [List.mem_cons, List.not_mem_nil, or_false] at hb
    rcases hb with rfl | rfl | rfl | rfl
    all_goals exact hbyte _ (by omega) (by omega)

/-- A character of ASCII is one byte. -/
lemma utf8EncodeChar_of_lt {c : Char} (h : c.toNat < 0x80) :
    String.utf8EncodeChar c = [UInt8.ofNat c.toNat] := by
  change c.val.toNat < 0x80 at h
  simp only [String.utf8EncodeChar]
  rw [if_pos (by omega)]
  rfl

/-! ### Newlines that are encoded -/

lemma eq_newline_of_mem_utf8EncodeChar {c : Char} (h : newline ∈ String.utf8EncodeChar c) :
    c = '\n' := by
  by_cases hc : c.toNat < 0x80
  · rw [utf8EncodeChar_of_lt hc, List.mem_singleton] at h
    have hnat := congrArg UInt8.toNat h
    rw [toNat_ofNat (Nat.lt_trans hc (by decide))] at hnat
    have hten : c.toNat = '\n'.toNat := hnat.symm
    rw [← Char.ofNat_toNat c, hten]
    rfl
  · have hle := le_of_mem_utf8EncodeChar (Nat.not_lt.mp hc) newline h
    exact absurd hle (by decide)

lemma newline_mem_encode_iff {s : String} : newline ∈ encode s ↔ '\n' ∈ s.toList := by
  rw [encode, List.mem_flatMap]
  constructor
  · rintro ⟨c, hc, hmem⟩
    rwa [← eq_newline_of_mem_utf8EncodeChar hmem]
  · intro h
    exact ⟨'\n', h, by decide⟩

lemma encode_append (s t : String) : encode (s ++ t) = encode s ++ encode t := by
  rw [encode, String.toList_append, List.flatMap_append]
  rfl

/-! ### Newlines that are decoded -/

lemma eq_ten_of_ofNat {n : Nat} (h : Char.ofNat n = '\n') : n = 10 := by
  by_cases hn : n.isValidChar
  · have hnat := congrArg Char.toNat h
    rwa [Char.toNat_ofNat, if_pos hn] at hnat
  · rw [Char.ofNat, dif_neg hn] at h
    exact absurd h (by decide)

/-- The bits above the last byte of a character that is no single byte are not all zero. -/
lemma low_of_lead? {b c lo hi : UInt8} {n : Nat} (h : lead? b = some (n, lo, hi)) (hlo : lo ≤ c)
    (hhi : c ≤ hi) :
    n = 2 ∧ 0 < b.toNat % 32 ∨ n = 3 ∧ 0 < b.toNat % 16 * 64 + payload c ∨
      n = 4 ∧ 0 < b.toNat % 8 * 64 + payload c := by
  rw [UInt8.le_iff_toNat_le] at hlo hhi
  simp only [lead?, Bool.and_eq_true, decide_eq_true_eq, UInt8.le_iff_toNat_le, beq_iff_eq,
    ← UInt8.toNat_inj, UInt8.reduceToNat] at h
  unfold payload
  split_ifs at h <;>
    (simp only [Option.some.injEq, Prod.mk.injEq] at h
     obtain ⟨rfl, rfl, rfl⟩ := h
     simp only [UInt8.reduceToNat] at hlo hhi
     omega)

/-- A character is the one byte it is spelled with, or its number has bits above those of the last
byte. -/
lemma next_some_cases {b : UInt8} {rest : Bytes} {ch : Char} (h : (next b rest).1 = some ch) :
    ch = Char.ofNat b.toNat ∨ ∃ k, 64 ≤ k ∧ ch = Char.ofNat k := by
  revert h
  unfold next
  split
  · intro h
    exact .inl (Option.some.inj h).symm
  split
  · simp
  · simp
  rename_i n lo hi c rest₁ hlead
  split
  · simp
  rename_i hrange
  simp only [Bool.not_eq_true', Bool.not_eq_false, Bool.and_eq_true, decide_eq_true_eq] at hrange
  have hlow := low_of_lead? hlead hrange.1 hrange.2
  split
  · intro h
    exact .inr ⟨_, by omega, (Option.some.inj h).symm⟩
  split
  · simp
  rename_i d rest₂
  split
  · simp
  split
  · intro h
    exact .inr ⟨_, by omega, (Option.some.inj h).symm⟩
  split
  · simp
  rename_i e rest₃
  split
  · simp
  · intro h
    exact .inr ⟨_, by omega, (Option.some.inj h).symm⟩

lemma eq_newline_of_next {b : UInt8} {rest : Bytes} (h : (next b rest).1 = some '\n') :
    b = newline := by
  obtain heq | ⟨k, hk, heq⟩ := next_some_cases h
  · exact UInt8.toNat_inj.mp (eq_ten_of_ofNat heq.symm)
  · have hten := eq_ten_of_ofNat heq.symm
    omega

lemma next_suffix (b : UInt8) (rest : Bytes) : (next b rest).2 <:+ rest := by
  unfold next
  repeat' split
  all_goals simp only [List.suffix_cons_iff, List.suffix_rfl, or_true]

lemma newline_mem_of_scan {bs : Bytes} (h : some '\n' ∈ scan bs) : newline ∈ bs := by
  fun_induction scan bs with
  | case1 => cases h
  | case2 b rest ih =>
    obtain hnext | hrest := List.mem_cons.mp h
    · exact List.mem_cons.mpr (.inl (eq_newline_of_next hnext.symm).symm)
    · exact List.mem_cons_of_mem b ((next_suffix b rest).subset (ih hrest))

/-- Only a newline is decoded as one. -/
lemma newline_not_mem_decodeLossy {bs : Bytes} (h : newline ∉ bs) :
    '\n' ∉ (decodeLossy bs).toList := by
  intro hmem
  rw [decodeLossy, String.toList_ofList, List.mem_map] at hmem
  obtain ⟨_ | c, hc, heq⟩ := hmem
  · exact absurd heq (by decide)
  · obtain rfl : c = '\n' := heq
    exact h (newline_mem_of_scan hc)

/-! ### The order of bytes -/

lemma byte_cons_lt {m n : Nat} (hm : m < 256) (hn : n < 256) {bs bs' : Bytes} (hle : m ≤ n)
    (hrest : m = n → bs < bs') : UInt8.ofNat m :: bs < UInt8.ofNat n :: bs' := by
  rw [List.cons_lt_cons_iff]
  by_cases heq : m = n
  · exact .inr ⟨congrArg UInt8.ofNat heq, hrest heq⟩
  · left
    rw [UInt8.lt_iff_toNat_lt, toNat_ofNat hm, toNat_ofNat hn]
    omega

/-- The bytes of a smaller character come first, whatever follows: a longer form begins with a
greater byte, and two forms of one length are compared like digits. -/
lemma utf8EncodeChar_append_lt {c d : Char} (h : c < d) (bs bs' : Bytes) :
    String.utf8EncodeChar c ++ bs < String.utf8EncodeChar d ++ bs' := by
  have hlt : c.val.toNat < d.val.toNat := UInt32.lt_iff_toNat_lt.mp h
  have hvalid : d.val.toNat < 0xd800 ∨ 0xdfff < d.val.toNat ∧ d.val.toNat < 0x110000 := d.valid
  generalize hm : c.val.toNat = m at hlt
  generalize hn : d.val.toNat = n at hlt hvalid
  simp only [String.utf8EncodeChar, hm, hn]
  split
  · repeat' split
    all_goals exact byte_cons_lt (by omega) (by omega) (by omega) fun _ => by omega
  split
  · repeat' split
    · omega
    · refine byte_cons_lt (by omega) (by omega) (by omega) fun _ => ?_
      exact byte_cons_lt (by omega) (by omega) (by omega) fun _ => by omega
    all_goals exact byte_cons_lt (by omega) (by omega) (by omega) fun _ => by omega
  split
  · repeat' split
    · omega
    · omega
    · refine byte_cons_lt (by omega) (by omega) (by omega) fun _ => ?_
      refine byte_cons_lt (by omega) (by omega) (by omega) fun _ => ?_
      exact byte_cons_lt (by omega) (by omega) (by omega) fun _ => by omega
    · exact byte_cons_lt (by omega) (by omega) (by omega) fun _ => by omega
  · repeat' split
    · omega
    · omega
    · omega
    · refine byte_cons_lt (by omega) (by omega) (by omega) fun _ => ?_
      refine byte_cons_lt (by omega) (by omega) (by omega) fun _ => ?_
      refine byte_cons_lt (by omega) (by omega) (by omega) fun _ => ?_
      exact byte_cons_lt (by omega) (by omega) (by omega) fun _ => by omega

lemma flatMap_utf8EncodeChar_lt {cs ds : List Char} (h : cs < ds) :
    cs.flatMap String.utf8EncodeChar < ds.flatMap String.utf8EncodeChar := by
  induction h with
  | @nil d ds =>
    rw [List.flatMap_nil, List.flatMap_cons]
    cases hbytes : String.utf8EncodeChar d with
    | nil => exact absurd hbytes String.utf8EncodeChar_ne_nil
    | cons b bs => exact List.nil_lt_cons _ _
  | @rel c cs d ds hlt =>
    rw [List.flatMap_cons, List.flatMap_cons]
    exact utf8EncodeChar_append_lt hlt _ _
  | @cons c cs ds hlt ih =>
    rw [List.flatMap_cons, List.flatMap_cons]
    exact List.append_left_lt ih

/-- Texts in the order of their characters are in the order of their bytes. -/
theorem encode_lt {s t : String} (h : s < t) : Utf8.encode s < Utf8.encode t :=
  flatMap_utf8EncodeChar_lt (String.lt_iff_toList_lt.mp h)

end HostFleet.Proofs
