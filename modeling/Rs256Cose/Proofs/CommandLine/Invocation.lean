import Mathlib
import Rs256Cose.CommandLine.Invocation
import Rs256Cose.Proofs.Steps

/-!
# Command lines read

The first plain word is the name of a command (`readName_word`), a word keeps its text
(`Word.text_of_read`), and no option becomes the input (`Reading.walk_of_not_plain`). So a command
line that names an input and then a trusted key is read as just that, or not at all
(`Invocation.eq_verify_of_read`).
-/

namespace Rs256Cose.CommandLine

open Commands

/-! ### Words -/

namespace Word

variable {ds : List Declaration} {text : String} {word : Word}

theorem text_of_readFront (h : readFront ds text = .ok word) : word.text = text := by
  unfold readFront at h
  simp only at h
  split at h
  · cases h
    rfl
  · cases h
    split_ifs
    · rfl
    · rfl
  · cases h

/-- Whatever a word is read as, it keeps its text. -/
theorem text_of_read (h : read ds text = .ok word) : word.text = text := by
  unfold read at h
  simp only at h
  split at h
  · cases h
    rfl
  · split at h
    · cases h
      rfl
    · split at h
      · cases h
        rfl
      · split at h
        · cases h
          rfl
        · exact text_of_readFront h

end Word

/-! ### Readings -/

namespace Reading

variable {r r' : Reading} {d : Declaration} {value : Option String} {word : Word}
  {words : List Word} {after : Option (List String)}

theorem give_eq_ok (h : r.give d value = .ok r') :
    r' = { r with given := r.given ++ [(d, value)] } := by
  unfold give at h
  simp only at h
  split at h
  · split_ifs at h
    · split at h
      · cases h
      · cases h
        rfl
    · cases h
  · split at h
    · cases h
    · cases h
      rfl

/-- The first plain word that is no value is the input. -/
theorem walk_input {text : String} (hnone : r.input = none) :
    walk after r (.plain text :: word :: words) =
      walk after { r with input := some text } (word :: words) := by
  rw [walk]
  · exact hnone
  · intro rest h
    cases h

/-- A word that is not plain and has no plain word behind it is no input and has none for value. -/
theorem walk_of_not_plain (hword : ∀ text, word ≠ .plain text)
    (hwords : ∀ text rest, words ≠ .plain text :: rest)
    (h : walk after r (word :: words) = .ok r') :
    ∃ r₁, r₁.input = r.input ∧ walk after r₁ words = .ok r' := by
  have hgive : ∀ {d value}, (do walk after (← r.give d value) words) = .ok r' →
      ∃ r₁, r₁.input = r.input ∧ walk after r₁ words = .ok r' := by
    intro d value h
    obtain ⟨r₁, hgiven, hwalk⟩ := do_eq_ok_iff.mp h
    refine ⟨r₁, ?_, hwalk⟩
    rw [give_eq_ok hgiven]
  cases word with
  | plain text => exact absurd rfl (hword text)
  | unknown text =>
    rw [walk] at h
    exact ⟨r.leave [text], rfl, h⟩
  | option text d value =>
    unfold walk at h
    split at h
    · cases h
    · cases h
    · exact hgive h
    · exact hgive h
    · exact hgive h
    · next value rest _ _ => exact absurd rfl (hwords value rest)
    · cases h

/-- An option that takes a text takes the word behind it, which must be plain. -/
theorem walk_text_pair {text : String} (hkind : d.kind = .text)
    (h : walk after r (.option text d none :: words) = .ok r') :
    ∃ value rest r₁, words = .plain value :: rest ∧ r.give d (some value) = .ok r₁ ∧
      walk after r₁ rest = .ok r' := by
  unfold walk at h
  rw [hkind] at h
  cases words with
  | nil => cases h
  | cons word rest =>
    cases word with
    | plain value =>
      obtain ⟨r₁, hgive, hwalk⟩ := do_eq_ok_iff.mp h
      exact ⟨value, rest, r₁, rfl, hgive, hwalk⟩
    | option => cases h
    | unknown => cases h

/-- The last two words, an option that takes a text and its value, change nothing but the options
given. -/
theorem eq_of_walk_last {ds : List Declaration} {name last : String} (hkind : d.kind = .text)
    (hwords : ([last].takeWhile (· ≠ "--")).mapM (Word.read ds) = .ok words)
    (h : walk (afterDashes [last]) r (.option name d none :: words) = .ok r') :
    r' = { r with given := r.given ++ [(d, some last)] } := by
  obtain ⟨value, rest, r₁, rfl, hgive, hwalk⟩ := walk_text_pair hkind h
  by_cases hlast : last = "--"
  · subst hlast
    cases hwords
  · simp only [List.takeWhile_cons, List.takeWhile_nil, hlast, ne_eq, not_false_eq_true,
      decide_true, if_true, List.mapM_cons, List.mapM_nil] at hwords
    obtain ⟨word, hword, hrest⟩ := do_eq_ok_iff.mp hwords
    cases hrest
    obtain rfl : value = last := Word.text_of_read hword
    have hafter : afterDashes [value] = none := by
      simp [afterDashes, hlast]
    rw [hafter] at hwalk
    cases hwalk
    exact give_eq_ok hgive

/-- An input, an option that takes a text, and its value: no other use is found for three words. -/
theorem eq_of_ofWords {ds : List Declaration} {first name last input : String}
    (hkind : d.kind = .text) (hname : Word.read ds name = .ok (.option name d none))
    (hdashes : name ≠ "--") (h : ofWords ds [first, name, last] = .ok r)
    (hinput : r.input = some input) (hunused : r.unused = []) :
    r = ⟨some first, [(d, some last)], []⟩ := by
  obtain ⟨before, hbefore, hwalk⟩ := do_eq_ok_iff.mp h
  rw [mapError_eq_ok_iff] at hbefore
  by_cases hfirst : first = "--"
  -- all that stands behind it is plain, and the last word has no use
  · subst hfirst
    cases hbefore
    cases hwalk
    cases hunused
  · have hafter : afterDashes [first, name, last] = afterDashes [last] := by
      simp [afterDashes, hfirst, hdashes]
    have hsplit : [first, name, last].takeWhile (· ≠ "--") =
        first :: name :: [last].takeWhile (· ≠ "--") := by
      simp [List.takeWhile_cons, hfirst, hdashes]
    rw [hsplit, List.mapM_cons, List.mapM_cons] at hbefore
    obtain ⟨word, hword, hbefore⟩ := do_eq_ok_iff.mp hbefore
    obtain ⟨rest, hrest, hbefore⟩ := do_eq_ok_iff.mp hbefore
    obtain ⟨second, hsecond, hrest⟩ := do_eq_ok_iff.mp hrest
    obtain ⟨words, hwords, hrest⟩ := do_eq_ok_iff.mp hrest
    rw [hname] at hsecond
    cases hsecond
    cases hrest
    cases hbefore
    rw [hafter] at hwalk
    by_cases hplain : ∃ text, word = .plain text
    · obtain ⟨text, rfl⟩ := hplain
      obtain rfl : text = first := Word.text_of_read hword
      rw [walk_input rfl] at hwalk
      exact eq_of_walk_last hkind hwords hwalk
    -- nothing is left that could be the input
    · obtain ⟨r₁, hnone, hwalk⟩ :=
        walk_of_not_plain (fun text htext => hplain ⟨text, htext⟩) (by simp) hwalk
      rw [eq_of_walk_last hkind hwords hwalk] at hinput
      cases hnone.symm.trans hinput

end Reading

/-! ### Invocations -/

namespace Invocation

theorem readName_word (unused words : List String) (name : CommandName) :
    readName unused (name.word :: words) = .ok (name, words, unused) := by
  have hdashes : name.word ≠ "--" := by
    cases name <;> decide
  have hplain : Word.read [helpOption] name.word = .ok (.plain name.word) := by
    cases name <;> rfl
  have hname : CommandName.ofWord? name.word = some name := by
    cases name <;> rfl
  rw [readName]
  simp only [if_neg hdashes, hplain, hname]

variable {settings : Settings} {invocation : Invocation}

/-- A command line is read if the words behind the command's name hold an input, every word has a
use, and the options make an invocation. -/
theorem read_eq_ok_iff (name : CommandName) {words : List String} :
    read settings (name.word :: words) = .ok invocation ↔ ∃ r input,
      Reading.ofWords name.declarations words = .ok r ∧ r.input = some input ∧ r.unused = [] ∧
        ofReading settings name input r = .ok invocation := by
  refine ⟨?_, ?_⟩
  · intro h
    obtain ⟨found, hfound, h⟩ := do_eq_ok_iff.mp h
    rw [readName_word] at hfound
    cases hfound
    obtain ⟨r, hr, h⟩ := do_eq_ok_iff.mp h
    rw [mapError_eq_ok_iff] at hr
    split at h
    · next input hinput =>
      simp only [List.nil_append] at h
      split_ifs at h with hunused
      · cases h
      · exact ⟨r, input, hr, hinput, not_not.mp hunused, h⟩
    · cases h
  · rintro ⟨r, input, hr, hinput, hunused, h⟩
    have hnone : ¬ (([] : List String) ++ r.unused ≠ []) := not_not.mpr hunused
    unfold read
    simp only [readName_word, hr, Except.mapError, bind, Except.bind, hinput, if_neg hnone, h]

/-- A command line that verifies a file under a trusted key is read as that or refused. -/
theorem eq_verify_of_read {file pub : String}
    (h : read settings ["verify", file, "--pub", pub] = .ok invocation) :
    invocation = .verify ⟨file, some pub⟩ := by
  obtain ⟨r, input, hr, hinput, hunused, h⟩ := (read_eq_ok_iff .verify).mp h
  obtain rfl := Reading.eq_of_ofWords (d := ⟨.text, ["--pub"], []⟩) rfl rfl (by decide) hr
    hinput hunused
  cases hinput
  cases h
  rfl

end Invocation

end Rs256Cose.CommandLine
