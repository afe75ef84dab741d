import PacketFilter.Proofs.Program.Dump

/-
  Dumps saved in files.

  A dump is written in ASCII and has no carriage return, so nothing is lost when its
  bytes are read as text again.

  What is proved: the bytes of such a text are read as the text
  (`ascii_decode_asciiBytes`), and a file that holds the dump of a program gives a
  program exactly if the dump can be read, with the same instructions
  (`ofFile_dump_eq_ok`).
-/

namespace PacketFilter

namespace Text

/-- The bytes of an ASCII text. -/
def asciiBytes (s : String) : List UInt8 := s.toList.map (fun c => c.toNat.toUInt8)

/-- The character is in ASCII and is no carriage return. -/
def Saveable (c : Char) : Prop := c.toNat < 128 ∧ c ≠ '\r'

theorem decodeAsciiFrom_bytes {cs : List Char} (h : ∀ c ∈ cs, c.toNat < 128) (position : Nat) :
    decodeAsciiFrom position (cs.map (fun c => c.toNat.toUInt8)) = .ok cs := by
  induction cs generalizing position with
  | nil => rfl
  | cons c cs ih =>
    have hc : c.toNat < 128 := h c List.mem_cons_self
    have hbyte : c.toNat.toUInt8.toNat = c.toNat := by
      simp only [Nat.toUInt8_eq, UInt8.toNat_ofNat']
      omega
    have hlow : c.toNat.toUInt8 < 0x80 := by
      rw [UInt8.lt_iff_toNat_lt, hbyte]
      exact hc
    rw [List.map_cons, decodeAsciiFrom, if_pos hlow,
      ih (fun d hd => h d (List.mem_cons_of_mem c hd)), map_of_ok, hbyte, Char.ofNat_toNat]

theorem unifyLineEnds_of_forall {cs : List Char} (h : ∀ c ∈ cs, c ≠ '\r') : unifyLineEnds cs = cs := by
  induction cs with
  | nil => rfl
  | cons c cs ih =>
    have hc : c ≠ '\r' := h c List.mem_cons_self
    have hrest := ih (fun d hd => h d (List.mem_cons_of_mem c hd))
    unfold unifyLineEnds
    split
    · contradiction
    · next heq =>
      cases heq
      exact absurd rfl hc
    · next heq =>
      cases heq
      rw [if_neg hc, hrest]

theorem ascii_decode_asciiBytes {s : String} (h : ∀ c ∈ s.toList, Saveable c) :
    Charset.ascii.decode (asciiBytes s) = .ok s := by
  have hchars := decodeAsciiFrom_bytes (fun c hc => (h c hc).1) 0
  simp only [Charset.decode, asciiBytes, hchars, map_of_ok,
    unifyLineEnds_of_forall (fun c hc => (h c hc).2), String.ofList_toList]

theorem saveable_of_isDigit {c : Char} (h : c.isDigit = true) : Saveable c := by
  have hrange := toNat_of_isDigit h
  refine ⟨by omega, ?_⟩
  rintro rfl
  contradiction

theorem AsciiLetter.saveable {c : Char} (h : AsciiLetter c) : Saveable c := by
  refine ⟨by rcases h with h | h <;> omega, ?_⟩
  rintro rfl
  exact absurd h (by decide)

end Text

open Text

theorem Instruction.words_saveable (i : Instruction) : ∀ c ∈ i.words.toList, Saveable c := by
  intro c hc
  rcases mem_words hc with rfl | hdigit | hletter
  · exact ⟨by decide, by decide⟩
  · exact saveable_of_isDigit hdigit
  · exact hletter.saveable

theorem Dump.dumpOf_saveable (is : List Instruction) :
    ∀ c ∈ (Program.dumpOf is).toList, Saveable c := by
  have hend : Saveable '\n' := ⟨by decide, by decide⟩
  intro c hc
  rw [dumpOf_toList, List.mem_append, List.mem_singleton] at hc
  rcases hc with hc | rfl
  · obtain rfl | ⟨l, hl, hcl⟩ := mem_intercalate hc
    · exact hend
    · rcases List.mem_cons.mp hl with rfl | hl
      · exact saveable_of_isDigit (isDigit_of_mem_decimalNat hcl)
      · obtain ⟨i, -, rfl⟩ := List.mem_map.mp hl
        exact i.words_saveable c hcl
  · exact hend

/-- **A file that holds a dump gives what the dump gives.** -/
theorem Reference.ofFile_dump_eq_ok (p : Program) (expression : String) (r : Program) :
    ofFile (asciiBytes p.dump) expression = .ok r ↔
      ∃ is, Dump.read p.dump = .ok is ∧
        ({ instructions := is, filterExpr := expression, origin := Origin.reference,
           mocked := some false, rawOutput := some p.dump } : Program) = r := by
  have hdecode : Charset.ascii.decode (asciiBytes p.dump) = .ok p.dump :=
    ascii_decode_asciiBytes (Dump.dumpOf_saveable p.instructions)
  rw [ofFile, hdecode, mapError_of_ok, ok_bind, mapError_eq_ok, ofDump, map_eq_ok]

end PacketFilter
