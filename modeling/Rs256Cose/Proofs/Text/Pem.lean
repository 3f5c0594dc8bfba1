import Mathlib
import Rs256Cose.Proofs.Text.Base64
import Rs256Cose.Text.Pem

/-!
# PEM read back

A block that was written is read back, whatever text without dashes stands before it and whatever
text follows (`readBlock_encode`). The marks of a frame are found where they were written because
nothing between them holds a dash (`cut_mark`), and the lines of the base64 join to the signs that
were cut into them (`decodeBody_lines`).
-/

namespace Rs256Cose.Text.Pem

/-! ### Marks -/

section

variable {before text : Bytes} {first : UInt8} (mark : Bytes)

/-- A text without the first byte of a mark is passed over in the search for it. -/
theorem cut_append (hmark : mark.head? = some first) (h : first ∉ before) :
    cut mark (before ++ text) =
      (cut mark text).map fun (found, after) => (before ++ found, after) := by
  induction before with
  | nil =>
    cases hcut : cut mark text with
    | none => simp [hcut]
    | some pair => simp [hcut]
  | cons b before ih =>
    have hb : first ≠ b := fun hb => h (hb ▸ List.mem_cons_self)
    have hprefix : mark.isPrefixOf (b :: (before ++ text)) = false := by
      cases mark with
      | nil => cases hmark
      | cons m mark =>
        obtain rfl : m = first := Option.some.inj hmark
        rw [List.isPrefixOf, beq_eq_false_iff_ne.mpr hb, Bool.false_and]
    rw [List.cons_append, cut, hprefix, ih fun hmem => h (List.mem_cons_of_mem _ hmem)]
    cases hcut : cut mark text with
    | none => simp
    | some pair => simp

theorem cut_self (hmark : mark.head? = some first) :
    cut mark (mark ++ text) = some ([], text) := by
  cases mark with
  | nil => cases hmark
  | cons m mark =>
    have hprefix : (m :: mark).isPrefixOf (m :: (mark ++ text)) = true := by
      rw [List.isPrefixOf_iff_prefix, ← List.cons_append]
      exact List.prefix_append _ _
    rw [List.cons_append, cut, hprefix, if_pos rfl, ← List.cons_append, List.drop_left]

/-- A mark is found after a text without its first byte. -/
theorem cut_mark (hmark : mark.head? = some first) (h : first ∉ before) :
    cut mark (before ++ (mark ++ text)) = some (before, text) := by
  rw [cut_append mark hmark h, cut_self mark hmark, Option.map_some]
  simp only [List.append_nil]

theorem cut_eq_none (hmark : mark.head? = some first) (h : first ∉ text) :
    cut mark text = none := by
  have hnil : cut mark [] = none := by
    rw [cut, if_neg]
    rintro rfl
    cases hmark
  rw [← List.append_nil text, cut_append mark hmark h, hnil, Option.map_none]

end

/-! ### Lines -/

/-- The bytes of base64 are neither dashes nor white space. -/
theorem of_isSign {b : UInt8} (hb : Base64.IsSign b) :
    b ≠ 0x2d ∧ isBlank b = false ∧ isGap b = false :=
  hb.of_forall (p := fun b => b ≠ 0x2d ∧ isBlank b = false ∧ isGap b = false) (by decide)
    (by decide)

section

variable {signs : Bytes}

theorem mem_lines {fuel : Nat} {b : UInt8} (h : b ∈ lines fuel signs) : b = 0x0a ∨ b ∈ signs := by
  induction fuel generalizing signs with
  | zero => cases h
  | succ fuel ih =>
    cases signs with
    | nil => cases h
    | cons first rest =>
      rw [lines, List.append_assoc, List.mem_append] at h
      rcases h with h | h
      · exact .inr (List.mem_of_mem_take h)
      rcases List.mem_append.mp h with h | h
      · exact .inl (List.mem_singleton.mp h)
      rcases ih h with h | h
      · exact .inl h
      · exact .inr (List.mem_of_mem_drop h)
      · exact List.cons_ne_nil _ _

theorem head?_lines {fuel : Nat} {b : UInt8} (h : (lines fuel signs).head? = some b) :
    b ∈ signs := by
  cases fuel with
  | zero => cases h
  | succ fuel =>
    cases signs with
    | nil => cases h
    | cons first rest =>
      obtain rfl : first = b := Option.some.inj h
      exact List.mem_cons_self

/-- No line is empty, so no two line feeds follow each other. -/
theorem cut_newlines_lines (fuel : Nat) (h : (0x0a : UInt8) ∉ signs) :
    cut [0x0a, 0x0a] (lines fuel signs) = none := by
  induction fuel generalizing signs with
  | zero => rfl
  | succ fuel ih =>
    cases signs with
    | nil => rfl
    | cons first rest =>
      have htake : (0x0a : UInt8) ∉ (first :: rest).take 64 := fun hmem =>
        h (List.mem_of_mem_take hmem)
      have hdrop : (0x0a : UInt8) ∉ (first :: rest).drop 64 := fun hmem =>
        h (List.mem_of_mem_drop hmem)
      have hnext : [0x0a, 0x0a].isPrefixOf (0x0a :: lines fuel ((first :: rest).drop 64)) =
          false := by
        cases hlines : lines fuel ((first :: rest).drop 64) with
        | nil => rfl
        | cons b more =>
          have hb : b ≠ 0x0a := by
            rintro rfl
            exact hdrop (head?_lines (congrArg List.head? hlines))
          simp [List.isPrefixOf, hb.symm]
      have hfeed : cut [0x0a, 0x0a] (0x0a :: lines fuel ((first :: rest).drop 64)) = none := by
        rw [cut, hnext, ih hdrop]
        rfl
      rw [lines, List.append_assoc, cut_append _ rfl htake, newline, List.singleton_append, hfeed]
      · rfl
      · exact List.cons_ne_nil _ _

theorem splitLines_eq_splitOn (text : Bytes) : splitLines text = text.splitOn 0x0a := by
  induction text with
  | nil => rfl
  | cons b rest ih =>
    rw [splitLines, ih, List.splitOn_cons_eq_if_modifyHead]
    by_cases hb : b = 0x0a
    · rw [if_pos hb, if_pos (beq_iff_eq.mpr hb)]
    · rw [if_neg hb, if_neg (by simpa using hb)]
      cases hsplit : rest.splitOn 0x0a with
      | nil => exact absurd hsplit (List.splitOnP_ne_nil _ _)
      | cons line more => rfl

theorem trimEnd_of_forall {line : Bytes} (h : ∀ b ∈ line, isBlank b = false) :
    trimEnd line = line := by
  apply List.rdropWhile_eq_self_iff.mpr
  intro hne
  rw [h _ (List.getLast_mem hne)]
  exact Bool.false_ne_true

/-- The signs cut into lines are the lines joined. -/
theorem flatMap_splitLines_lines {fuel : Nat} (hfuel : signs.length ≤ fuel)
    (h : ∀ b ∈ signs, isBlank b = false) :
    (splitLines (lines fuel signs)).flatMap trimEnd = signs := by
  induction fuel generalizing signs with
  | zero =>
    obtain rfl : signs = [] := List.length_eq_zero_iff.mp (Nat.le_zero.mp hfuel)
    rfl
  | succ fuel ih =>
    cases hsigns : signs with
    | nil => rfl
    | cons first rest =>
      rw [← hsigns]
      have hrest : (signs.drop 64).length ≤ fuel := by
        rw [List.length_drop]
        rw [hsigns] at hfuel ⊢
        simp only [List.length_cons] at hfuel ⊢
        omega
      have htake : ∀ b ∈ signs.take 64, isBlank b = false := fun b hb =>
        h b (List.mem_of_mem_take hb)
      have hdrop : ∀ b ∈ signs.drop 64, isBlank b = false := fun b hb =>
        h b (List.mem_of_mem_drop hb)
      have hfeed : (0x0a : UInt8) ∉ signs.take 64 := fun hmem => by
        cases htake _ hmem
      have hlines : lines (fuel + 1) signs =
          signs.take 64 ++ 0x0a :: lines fuel (signs.drop 64) := by
        rw [hsigns, lines, newline, List.append_assoc, List.singleton_append]
        exact List.cons_ne_nil _ _
      rw [hlines, splitLines_eq_splitOn, List.splitOn_append_cons_self_of_not_mem hfeed,
        ← splitLines_eq_splitOn, List.flatMap_cons, trimEnd_of_forall htake, ih hrest hdrop,
        List.take_append_drop]

end

theorem decodeBody_lines (contents : Bytes) :
    decodeBody (lines (Base64.encode contents).length (Base64.encode contents)) =
      some contents := by
  have hsigns : ∀ b ∈ Base64.encode contents, isBlank b = false := fun b hb =>
    (of_isSign (Base64.mem_encode b hb)).2.1
  have hfeed : (0x0a : UInt8) ∉ Base64.encode contents := fun hmem => by
    cases hsigns _ hmem
  have hreturn : (0x0d : UInt8) ∉ lines (Base64.encode contents).length
      (Base64.encode contents) := by
    intro hmem
    rcases mem_lines hmem with h | h
    · cases h
    · cases hsigns _ h
  have hheaders : dropHeaders (lines (Base64.encode contents).length (Base64.encode contents)) =
      some (lines (Base64.encode contents).length (Base64.encode contents)) := by
    rw [dropHeaders, cut_newlines_lines _ hfeed, cut_eq_none _ rfl hreturn]
    rfl
  rw [decodeBody, hheaders]
  exact (congrArg Base64.decode (flatMap_splitLines_lines le_rfl hsigns)).trans
    (Base64.decode_encode contents)

/-! ### Frames -/

/-- White space after the opening line ends where the signs, or the dashes after them, begin. -/
theorem dropWhile_isGap_newline {contents : Bytes} (text : Bytes) :
    (newline ++ (lines (Base64.encode contents).length (Base64.encode contents) ++
      (endMark ++ text))).dropWhile isGap =
    lines (Base64.encode contents).length (Base64.encode contents) ++ (endMark ++ text) := by
  rw [newline, List.singleton_append, List.dropWhile_cons_of_pos (by decide)]
  cases hlines : lines (Base64.encode contents).length (Base64.encode contents) with
  | nil => rfl
  | cons b more =>
    have hb := of_isSign (Base64.mem_encode b (head?_lines (congrArg List.head? hlines)))
    rw [List.cons_append, List.dropWhile_cons_of_neg (by simp [hb.2.2])]

/-- A block is read back where it is the first, whatever follows. -/
theorem readBlock_encode (block : Block) {before : Bytes} (hbefore : (0x2d : UInt8) ∉ before)
    (hlabel : (0x2d : UInt8) ∉ block.label) (hne : block.label ≠ []) (rest : Bytes) :
    readBlock (before ++ (encode block ++ rest)) = some (some block, newline ++ rest) := by
  obtain ⟨label, contents⟩ := block
  have hbody : (0x2d : UInt8) ∉
      lines (Base64.encode contents).length (Base64.encode contents) := by
    intro hmem
    rcases mem_lines hmem with h | h
    · cases h
    · exact (of_isSign (Base64.mem_encode _ h)).1 rfl
  simp only [encode, List.append_assoc, readBlock, cut_mark beginMark rfl hbefore,
    cut_mark dashes rfl hlabel, cut_mark endMark rfl hbody,
    dropWhile_isGap_newline, bind, Option.bind, pure, ne_eq, not_true, hne, or_self, if_false,
    decodeBody_lines, Option.map_some]

/-- A block with one of the labels is found if it is the first. -/
theorem find?_encode {labels : List Bytes} (block : Block) (hlabels : block.label ∈ labels)
    (hlabel : (0x2d : UInt8) ∉ block.label) (hne : block.label ≠ []) (rest : Bytes) :
    find? labels (encode block ++ rest) = some block := by
  have hread := readBlock_encode block List.not_mem_nil hlabel hne rest
  rw [List.nil_append] at hread
  have hlength : (encode block ++ rest).length ≠ 0 := by simp [encode, beginMark, dashes]
  obtain ⟨fuel, hfuel⟩ := Nat.exists_eq_succ_of_ne_zero hlength
  rw [find?, hfuel, find, hread]
  exact if_pos hlabels

end Rs256Cose.Text.Pem
