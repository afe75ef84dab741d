import PacketFilter.Address.V6
import PacketFilter.Proofs.Fallible
import PacketFilter.Proofs.Json.Text
import PacketFilter.Proofs.Text.Blank

/-
  IPv4 addresses are words of 32 bits, however they are given (`ofJson_lt`), and the text
  of one is four runs of ASCII digits joined by points (`ofText_octets`).

  Exactly one text is read as a given word, the one that writes its octets in base ten
  (`ofText_eq_ok_iff`). A value is an address exactly if it is a whole number of 32 bits or
  the text of one (`ofJson_eq_ok_iff`). So reading is one to one between the texts that are
  read and the words, and keeps whole numbers (`ofJson_bijects`); that the text of a word is
  its dotted form is said apart from how it is written (`Dotted`).
-/

namespace PacketFilter

namespace Address.V4

open Text

theorem octet_le {cs : List Char} {n : Nat} (h : octet cs = .ok n) : n ≤ 255 := by
  unfold octet at h
  split at h
  · contradiction
  · split at h
    · contradiction
    · split at h
      · contradiction
      · split at h
        · contradiction
        · split at h
          · contradiction
          · cases h; omega

theorem word_lt {a b c d : Nat} (ha : a ≤ 255) (hb : b ≤ 255) (hc : c ≤ 255) (hd : d ≤ 255) :
    word a b c d < 0x100000000 := by
  unfold word; omega

theorem ofText_lt {text : String} {w : Nat} (h : ofText text = .ok w) : w < 0x100000000 := by
  unfold ofText at h
  split at h
  · contradiction
  · split at h
    · simp only [mapError_eq_ok, bind_eq_ok] at h
      obtain ⟨a, ha, b, hb, c, hc, d, hd, h⟩ := h
      cases h
      exact word_lt (octet_le ha) (octet_le hb) (octet_le hc) (octet_le hd)
    · contradiction

theorem ofInt_lt {n : Int} {w : Nat} (h : ofInt n = .ok w) : w < 0x100000000 := by
  unfold ofInt at h
  split at h
  · contradiction
  · split at h
    · contradiction
    · cases h; omega

theorem ofJson_lt {v : Json} {w : Nat} (h : ofJson v = .ok w) : w < 0x100000000 := by
  unfold ofJson at h
  split at h
  · exact ofInt_lt h
  · split at h
    · contradiction
    · exact ofText_lt h

theorem ofText_of_ofJson {s : LooseText} {w : Nat} (h : ofJson (.str s) = .ok w) :
    ofText s.text = .ok w := by
  unfold ofJson at h
  split at h
  · contradiction
  · split at h
    · contradiction
    · exact h

theorem octet_digits {cs : List Char} {n : Nat} (h : octet cs = .ok n) :
    cs ≠ [] ∧ ∀ c ∈ cs, c.isDigit = true := by
  unfold octet at h
  split at h
  · contradiction
  · next hsome =>
    split at h
    · contradiction
    · next hdigits => exact ⟨by simpa using hsome, by simpa using hdigits⟩

theorem ofText_octets {text : String} {w : Nat} (h : ofText text = .ok w) :
    ∃ a b c d, text.toList = a ++ '.' :: (b ++ '.' :: (c ++ '.' :: d)) ∧
      ∀ octet ∈ [a, b, c, d], octet ≠ [] ∧ ∀ c ∈ octet, c.isDigit = true := by
  unfold ofText at h
  split at h
  · contradiction
  · split at h
    · next a b c d hsplit =>
      simp only [mapError_eq_ok, bind_eq_ok] at h
      obtain ⟨_, ha, _, hb, _, hc, _, hd, -⟩ := h
      refine ⟨a, b, c, d, ?_, ?_⟩
      · rw [← Text.intercalate_splitAt '.' text.toList, hsplit]
        simp [List.intercalate_cons_cons]
      · simp only [List.forall_mem_cons]
        exact ⟨octet_digits ha, octet_digits hb, octet_digits hc, octet_digits hd,
          by simp⟩
    · contradiction

/-! ## The form of texts -/

theorem toDigits_of_isDigit {c : Char} (h : c.isDigit = true) :
    Nat.toDigits 10 (c.toNat - 48) = [c] := by
  obtain ⟨hlow, hhigh⟩ := toNat_of_isDigit h
  have hfigure : (Nat.digitChar (c.toNat - 48)).toNat = c.toNat := by
    rw [Nat.toNat_digitChar_of_lt_ten (by omega)]
    omega
  rw [Nat.toDigits_of_lt_base (by omega), Char.toNat_inj.mp hfigure]

/-- Each digit behind a number that is not zero is one more figure of the whole. -/
theorem toDigits_foldl {cs : List Char} (h : ∀ c ∈ cs, c.isDigit = true) {n : Nat} (hn : 0 < n) :
    Nat.toDigits 10 (cs.foldl (fun n c => 10 * n + (c.toNat - 48)) n) = Nat.toDigits 10 n ++ cs := by
  induction cs generalizing n with
  | nil => simp
  | cons c cs ih =>
    obtain ⟨hc, hcs⟩ := List.forall_mem_cons.mp h
    have hdigit : c.toNat - 48 < 10 := by
      have := toNat_of_isDigit hc
      omega
    rw [List.foldl_cons, ih hcs (by omega), ← Nat.toDigits_append_toDigits (by decide) hn hdigit,
      toDigits_of_isDigit hc, List.append_assoc, List.singleton_append]

/-- Digits without a leading zero are the figures of their value. -/
theorem toDigits_digitsValue {cs : List Char} (hsome : cs ≠ [])
    (h : ∀ c ∈ cs, c.isDigit = true) (hzero : cs = ['0'] ∨ cs.head? ≠ some '0') :
    Nat.toDigits 10 (digitsValue cs) = cs := by
  rcases hzero with rfl | hzero
  · rfl
  · obtain ⟨c, cs, rfl⟩ := List.exists_cons_of_ne_nil hsome
    obtain ⟨hc, hcs⟩ := List.forall_mem_cons.mp h
    have hpos : 0 < c.toNat - 48 := by
      have hlow := (toNat_of_isDigit hc).1
      have hne : c.toNat ≠ '0'.toNat := fun heq => hzero (by rw [Char.toNat_inj.mp heq]; rfl)
      have : '0'.toNat = 48 := rfl
      omega
    rw [digitsValue, List.foldl_cons, Nat.mul_zero, Nat.zero_add, toDigits_foldl hcs hpos,
      toDigits_of_isDigit hc, List.singleton_append]

theorem digitsValue_toDigits (n : Nat) : digitsValue (Nat.toDigits 10 n) = n := by
  have hvalue := Nat.ofDigitChars_ten_toDigits (n := n)
  rw [Nat.ofDigitChars_eq_foldl] at hvalue
  exact hvalue

theorem eq_zero_of_head_toDigits {n : Nat} (h : (Nat.toDigits 10 n).head? = some '0') : n = 0 := by
  induction n using Nat.strongRecOn with
  | ind n ih =>
    by_cases hn : n < 10
    · rw [Nat.toDigits_of_lt_base hn, List.head?_cons, Option.some_inj] at h
      have hfigure := Nat.toNat_digitChar_of_lt_ten hn
      rw [h] at hfigure
      have : '0'.toNat = 48 := rfl
      omega
    · -- The last figure comes off behind the others, so the first is that of a smaller number.
      rw [Nat.toDigits_of_base_le (by decide) (by omega), List.head?_append,
        List.head?_eq_some_head Nat.toDigits_ne_nil, Option.some_or,
        ← List.head?_eq_some_head Nat.toDigits_ne_nil] at h
      have := ih (n / 10) (by omega) h
      omega

/-- **An octet is a number of at most 255 in base ten.** -/
theorem octet_eq_ok_iff {cs : List Char} {n : Nat} :
    octet cs = .ok n ↔ n ≤ 255 ∧ cs = Nat.toDigits 10 n := by
  constructor
  · intro h
    obtain ⟨hsome, hdigits⟩ := octet_digits h
    refine ⟨octet_le h, ?_⟩
    simp only [octet, List.isEmpty_iff, hsome, List.all_eq_true.mpr hdigits, Bool.not_true,
      Bool.false_eq_true, ↓reduceIte] at h
    split at h
    · contradiction
    · split at h
      · contradiction
      · next hzero =>
        split at h
        · contradiction
        · cases h
          exact (toDigits_digitsValue hsome hdigits (by grind)).symm
  · rintro ⟨hn, rfl⟩
    have hdigits : ∀ c ∈ Nat.toDigits 10 n, c.isDigit = true :=
      fun c hc => Nat.isDigit_of_mem_toDigits (by decide) (by decide) hc
    have hlength : (Nat.toDigits 10 n).length ≤ 3 :=
      (Nat.length_toDigits_le_iff (by decide) (by decide)).mpr (by omega)
    have hzero : ¬ (Nat.toDigits 10 n ≠ ['0'] ∧ (Nat.toDigits 10 n).head? = some '0') := by
      rintro ⟨hne, hhead⟩
      rw [eq_zero_of_head_toDigits hhead] at hne
      exact hne rfl
    rw [octet, if_neg (by simp), if_neg (by simpa using hdigits), if_neg (by omega), if_neg hzero,
      digitsValue_toDigits, if_neg (by omega)]

/-- The figures of the octets of a word. -/
def octetFigures (w : Nat) : List (List Char) :=
  [w / 0x1000000 % 256, w / 0x10000 % 256, w / 256 % 256, w % 256].map (Nat.toDigits 10)

theorem octets_eq_ok_iff {a b c d : List Char} {w : Nat} :
    (do
        let a ← octet a
        let b ← octet b
        let c ← octet c
        let d ← octet d
        return word a b c d : Except OctetFault Nat) = .ok w ↔
      w < 0x100000000 ∧ [a, b, c, d] = octetFigures w := by
  simp only [bind_eq_ok, pure_ok, Except.ok.injEq, octet_eq_ok_iff, octetFigures, List.map_cons,
    List.map_nil, List.cons.injEq, and_true]
  constructor
  · rintro ⟨a, ⟨ha, rfl⟩, b, ⟨hb, rfl⟩, c, ⟨hc, rfl⟩, d, ⟨hd, rfl⟩, rfl⟩
    refine ⟨word_lt ha hb hc hd, ?_, ?_, ?_, ?_⟩
    all_goals
      congr 1
      unfold word
      omega
  · rintro ⟨hw, rfl, rfl, rfl, rfl⟩
    refine ⟨_, ⟨by omega, rfl⟩, _, ⟨by omega, rfl⟩, _, ⟨by omega, rfl⟩, _, ⟨by omega, rfl⟩, ?_⟩
    unfold word
    omega

theorem text_toList (w : Nat) : (text w).toList = ['.'].intercalate (octetFigures w) := by
  simp [text, octetFigures, decimalNat]

theorem splitAt_text (w : Nat) : splitAt '.' (text w).toList = octetFigures w := by
  rw [text_toList, splitAt]
  apply splitWhere_intercalate (by decide) (by simp [octetFigures])
  intro part hpart c hc
  obtain ⟨n, -, rfl⟩ := List.mem_map.mp hpart
  have hdigit := Nat.isDigit_of_mem_toDigits (by decide) (by decide) hc
  rw [beq_eq_false_iff_ne]
  rintro rfl
  contradiction

theorem splitAt_eq_octetFigures_iff {s : String} {w : Nat} :
    splitAt '.' s.toList = octetFigures w ↔ s = text w := by
  constructor
  · intro h
    rw [← String.toList_inj, text_toList, ← h, intercalate_splitAt]
  · rintro rfl
    exact splitAt_text w

/-- **The text that is read as a word is the dotted text of the word.** -/
theorem ofText_eq_ok_iff {s : String} {w : Nat} :
    ofText s = .ok w ↔ w < 0x100000000 ∧ s = text w := by
  rw [← splitAt_eq_octetFigures_iff, ofText]
  split
  · next hempty =>
    refine iff_of_false (by simp) ?_
    rintro ⟨-, hsplit⟩
    rw [String.isEmpty_iff.mp hempty] at hsplit
    cases (show 1 = 4 from congrArg List.length hsplit)
  · split
    · next hsplit => rw [mapError_eq_ok, octets_eq_ok_iff, hsplit]
    · next hsplit =>
      refine iff_of_false (by simp) ?_
      rintro ⟨-, hfigures⟩
      exact hsplit _ _ _ _ hfigures

/-! ## Values -/

theorem mem_of_ofText {s : String} {w : Nat} (h : ofText s = .ok w) {x : Char} (hx : x ∈ s.toList) :
    x = '.' ∨ x.isDigit = true := by
  obtain ⟨a, b, c, d, htext, hoctets⟩ := ofText_octets h
  simp only [List.forall_mem_cons] at hoctets
  obtain ⟨⟨-, ha⟩, ⟨-, hb⟩, ⟨-, hc⟩, ⟨-, hd⟩, -⟩ := hoctets
  simp only [htext, List.mem_append, List.mem_cons] at hx
  grind

theorem points_of_ofText {s : String} {w : Nat} (h : ofText s = .ok w) : 3 ≤ s.toList.count '.' := by
  obtain ⟨a, b, c, d, htext, -⟩ := ofText_octets h
  simp only [htext, List.count_append, List.count_cons_self]
  omega

/-- The text of an address has no lone surrogate in it. -/
theorem ofString_address {s : LooseText} {w : Nat} (hw : ofText s.text = .ok w) :
    LooseText.ofString s.text = s := by
  apply LooseText.ofString_text
  intro hmem
  rcases mem_of_ofText hw hmem with hx | hx <;> contradiction

/-- Of the values that are no whole numbers only texts are shown as addresses. -/
theorem text_of_ofText {v : Json} (hv : v.int? = none) {w : Nat} (h : ofText v.plain = .ok w) :
    ∃ s, v = .str s := by
  cases v with
  | str s => exact ⟨s, rfl⟩
  | null => contradiction
  | bool b => contradiction
  | num n =>
    cases n with
    | int n => contradiction
    | real x =>
      have hpoints : 3 ≤ x.text.toList.count '.' := points_of_ofText h
      have := x.count_point_text
      omega
  | arr items =>
    rcases mem_of_ofText h (x := '[') (by simp [Json.plain, Json.quoted]) with hx | hx <;>
      contradiction
  | obj fields =>
    rcases mem_of_ofText h (x := '\x7b') (by simp [Json.plain, Json.quoted]) with hx | hx <;>
      contradiction

theorem ofInt_eq_ok_iff {n : Int} {w : Nat} : ofInt n = .ok w ↔ w < 0x100000000 ∧ n = w := by
  unfold ofInt
  split
  · simp
    omega
  · split <;> simp <;> omega

/-- **A value is an address exactly if it is a whole number of 32 bits or the dotted text of
one.** -/
theorem ofJson_eq_ok_iff {v : Json} {w : Nat} :
    ofJson v = .ok w ↔
      w < 0x100000000 ∧ (v.int? = some (w : Int) ∨ ∃ s, v = .str s ∧ s.text = text w) := by
  unfold ofJson
  cases hint : v.int? with
  | some n =>
    have hstr : ¬ ∃ s, v = .str s ∧ s.text = text w := by
      rintro ⟨s, rfl, -⟩
      contradiction
    simp only [ofInt_eq_ok_iff, hstr, or_false, Option.some_inj]
  | none =>
    simp only [reduceCtorEq, false_or]
    constructor
    · intro h
      split at h
      · contradiction
      · obtain ⟨s, rfl⟩ := text_of_ofText hint h
        obtain ⟨hw, htext⟩ := ofText_eq_ok_iff.mp h
        exact ⟨hw, s, rfl, htext⟩
    · rintro ⟨hw, s, rfl, htext⟩
      have hread : ofText s.text = .ok w := ofText_eq_ok_iff.mpr ⟨hw, htext⟩
      have hslash : s.text.toList.contains '/' = false := by
        rw [List.contains_eq_mem, decide_eq_false_iff_not]
        intro hmem
        rcases mem_of_ofText hread hmem with hx | hx <;> contradiction
      simp only [Json.plain, hslash, hread, Bool.false_eq_true, ↓reduceIte]

/-! ## One text for each word -/

theorem ofJson_str_eq_ok_iff {s : LooseText} {w : Nat} :
    ofJson (.str s) = .ok w ↔ w < 0x100000000 ∧ s = .ofString (text w) := by
  constructor
  · intro h
    have hread := ofText_of_ofJson h
    obtain ⟨hw, htext⟩ := ofText_eq_ok_iff.mp hread
    exact ⟨hw, by rw [← htext, ofString_address hread]⟩
  · rintro ⟨hw, rfl⟩
    exact ofJson_eq_ok_iff.mpr ⟨hw, .inr ⟨_, rfl, LooseText.text_ofString _⟩⟩

/-- A whole number is not read from its text. -/
theorem ofJson_of_int? {v : Json} {n : Int} (hv : v.int? = some n) : ofJson v = ofInt n := by
  rw [ofJson, hv]

/-- A number in base ten: ASCII digits that have its value, the first of them a zero only if
it stands alone. -/
structure Figures (cs : List Char) (n : Nat) : Prop where
  nonempty : cs ≠ []
  digits : ∀ c ∈ cs, c.isDigit = true
  leading : cs.head? = some '0' → cs = ['0']
  value : Nat.ofDigitChars 10 cs 0 = n

theorem figures_iff {cs : List Char} {n : Nat} : Figures cs n ↔ cs = Nat.toDigits 10 n := by
  constructor
  · rintro ⟨hsome, hdigits, hleading, rfl⟩
    have hvalue : Nat.ofDigitChars 10 cs 0 = digitsValue cs := Nat.ofDigitChars_eq_foldl
    rw [hvalue, toDigits_digitsValue hsome hdigits]
    by_cases hzero : cs.head? = some '0'
    · exact .inl (hleading hzero)
    · exact .inr hzero
  · rintro rfl
    refine ⟨Nat.toDigits_ne_nil, ?_, ?_, Nat.ofDigitChars_ten_toDigits⟩
    · exact fun c hc => Nat.isDigit_of_mem_toDigits (by decide) (by decide) hc
    · intro hzero
      rw [eq_zero_of_head_toDigits hzero]
      rfl

/-- The dotted form of a word: its four octets as numbers in base ten, the most significant
first, joined by points. -/
def Dotted (s : String) (w : Nat) : Prop :=
  ∃ a b c d : List Char, s.toList = a ++ '.' :: (b ++ '.' :: (c ++ '.' :: d)) ∧
    Figures a (w / 0x1000000 % 256) ∧ Figures b (w / 0x10000 % 256) ∧ Figures c (w / 256 % 256) ∧
    Figures d (w % 256)

theorem dotted_iff {s : String} {w : Nat} : Dotted s w ↔ s = text w := by
  have htext : (text w).toList =
      Nat.toDigits 10 (w / 0x1000000 % 256) ++ '.' :: (Nat.toDigits 10 (w / 0x10000 % 256) ++
        '.' :: (Nat.toDigits 10 (w / 256 % 256) ++ '.' :: Nat.toDigits 10 (w % 256))) := by
    simp [text_toList, octetFigures, List.intercalate_cons_cons]
  simp only [Dotted, figures_iff]
  constructor
  · rintro ⟨_, _, _, _, hs, rfl, rfl, rfl, rfl⟩
    exact String.toList_inj.mp (hs.trans htext.symm)
  · rintro rfl
    exact ⟨_, _, _, _, htext, rfl, rfl, rfl, rfl⟩

/-- **Texts and words correspond one to one.** The dotted form of each word of 32 bits is read
as the word, and nothing else is read, so that two texts are never read as the same word. A
whole number is its own word, and is refused outside the range of words. -/
theorem ofJson_bijects :
    (∀ w, w < 0x100000000 → ofJson (.text (text w)) = .ok w) ∧
    (∀ (s : LooseText) (w : Nat), ofJson (.str s) = .ok w →
      w < 0x100000000 ∧ s = .ofString (text w)) ∧
    (∀ (s : String) (w : Nat), Dotted s w ↔ s = text w) ∧
    (∀ (s t : LooseText) (w : Nat), ofJson (.str s) = .ok w → ofJson (.str t) = .ok w → s = t) ∧
    ∀ (v : Json) (n : Int), v.int? = some n →
      (0 ≤ n → n < 0x100000000 → ofJson v = .ok n.toNat) ∧
      (n < 0 → ofJson v = .error (.negative n)) ∧
      (0x100000000 ≤ n → ofJson v = .error (.tooLarge n)) := by
  refine ⟨?_, fun s w => ofJson_str_eq_ok_iff.mp, fun s w => dotted_iff, ?_, ?_⟩
  · intro w hw
    exact ofJson_str_eq_ok_iff.mpr ⟨hw, rfl⟩
  · intro s t w hs ht
    rw [(ofJson_str_eq_ok_iff.mp hs).2, (ofJson_str_eq_ok_iff.mp ht).2]
  · intro v n hv
    rw [ofJson_of_int? hv]
    refine ⟨?_, ?_, ?_⟩
    · intro hlow hhigh
      rw [ofInt, if_neg (by omega), if_neg (by omega)]
    · intro hneg
      rw [ofInt, if_pos hneg]
    · intro hlarge
      rw [ofInt, if_neg (by omega), if_pos (by omega)]

theorem ofJson_bijects_loopback :
    ofJson (.text "127.0.0.1") = .ok 0x7f000001 ∧
    LooseText.ofString "127.0.0.1" = .ofString (text 0x7f000001) ∧
    (∀ s : LooseText, ofJson (.str s) = .ok 0x7f000001 → s = .ofString "127.0.0.1") ∧
    ofJson (.int 0xffffffff) = .ok 0xffffffff ∧ ofJson (.bool true) = .ok 1 ∧
    ofJson (.int (-1)) = .error (.negative (-1)) ∧
    ofJson (.int 0x100000000) = .error (.tooLarge 0x100000000) := by
  have htext : text 0x7f000001 = "127.0.0.1" := by decide
  obtain ⟨hword, hread, -, hone, hint⟩ := ofJson_bijects
  have hloopback : ofJson (.text "127.0.0.1") = .ok 0x7f000001 := htext ▸ hword 0x7f000001 (by decide)
  refine ⟨hloopback, ?_, ?_, ?_, ?_, ?_, ?_⟩
  · exact (hread _ _ hloopback).2
  · exact fun s hs => hone s _ _ hs hloopback
  · exact (hint (.int 0xffffffff) 0xffffffff rfl).1 (by decide) (by decide)
  · exact (hint (.bool true) 1 rfl).1 (by decide) (by decide)
  · exact (hint (.int (-1)) (-1) rfl).2.1 (by decide)
  · exact (hint (.int 0x100000000) 0x100000000 rfl).2.2 (by decide)

end Address.V4

/-- A value is an address of the first kind exactly if it has a word. -/
theorem Address.Family.ofJson?_eq_v4_iff {v : Json} :
    ofJson? v = some .v4 ↔ ∃ w, V4.ofJson v = .ok w := by
  rw [ofJson?]
  cases V4.ofJson v with
  | ok w => simp
  | error e => cases v.int? <;> simp

end PacketFilter
