import Mathlib
import Rs256Cose.Proofs.CommandLine.Invocation

/-!
# A switch put first

A switch that excludes no option, and that none excludes, may be put in front of the other words of
a command: they are read as before, with the switch given first (`Reading.ofWords_switch`). So a
command line that signs is read with and without `--verify` as the same but for the check
(`Invocation.read_sign_verify`).
-/

namespace Rs256Cose.CommandLine

open Commands

/-! ### Words -/

namespace Word

variable {ds : List Declaration} {d : Declaration} {text text' : String} {value : Option Attached}

theorem mem_of_named? (h : named? ds text = some d) : d ∈ ds := List.mem_of_find?_eq_some h

theorem mem_of_declaredNames {name : String} (h : (d, name) ∈ declaredNames ds) : d ∈ ds := by
  unfold declaredNames at h
  obtain ⟨d', hd', h⟩ := List.mem_flatMap.mp h
  obtain ⟨name', -, h⟩ := List.mem_map.mp h
  cases h
  exact hd'

theorem mem_of_candidates {s : List Char} {name : String}
    (h : (d, name, value) ∈ candidates ds s) : d ∈ ds := by
  unfold candidates at h
  split at h
  · obtain ⟨⟨d', name'⟩, hdeclared, h⟩ := List.mem_filterMap.mp h
    simp only at h
    split_ifs at h
    cases h
    exact mem_of_declaredNames hdeclared
  · obtain ⟨⟨d', name'⟩, hdeclared, h⟩ := List.mem_filterMap.mp h
    simp only at h
    split_ifs at h
    · cases h
      exact mem_of_declaredNames hdeclared
    · cases h
      exact mem_of_declaredNames hdeclared

/-- An option that was read is one of those declared. -/
theorem mem_of_read (h : read ds text = .ok (.option text' d value)) : d ∈ ds := by
  unfold read at h
  simp only at h
  split at h
  · cases h
  · split at h
    · next hnamed =>
      cases h
      exact mem_of_named? hnamed
    · split at h
      · cases h
      · split at h
        · next hassigned =>
          cases h
          unfold assignment? at hassigned
          split at hassigned
          · obtain ⟨d', hnamed, heq⟩ := Option.map_eq_some_iff.mp hassigned
            cases heq
            exact mem_of_named? hnamed
          · cases hassigned
        · unfold readFront at h
          simp only at h
          split at h
          · next hcandidates =>
            cases h
            exact mem_of_candidates (hcandidates ▸ List.mem_singleton_self _)
          · split_ifs at h
            · cases h
            · cases h
          · cases h

theorem mem_of_mapM_read {texts : List String} {words : List Word}
    (h : texts.mapM (read ds) = .ok words) (hmem : .option text d value ∈ words) : d ∈ ds := by
  induction texts generalizing words with
  | nil =>
    cases h
    cases hmem
  | cons first texts ih =>
    rw [List.mapM_cons] at h
    obtain ⟨word, hword, h⟩ := do_eq_ok_iff.mp h
    obtain ⟨rest, hrest, h⟩ := do_eq_ok_iff.mp h
    cases h
    rcases List.mem_cons.mp hmem with rfl | hmem
    · exact mem_of_read hword
    · exact ih hrest hmem

end Word

/-! ### Readings -/

namespace Reading

variable {r : Reading} {d : Declaration} {words : List Word} {after : Option (List String)}

/-- No option among the words excludes this one. -/
def Unexcluded (d : Declaration) (words : List Word) : Prop :=
  ∀ text d' value, .option text d' value ∈ words → ∀ name ∈ d'.excludes, name ∉ d.names

theorem Unexcluded.tail {word : Word} (h : Unexcluded d (word :: words)) : Unexcluded d words :=
  fun _ _ _ hmem => h _ _ _ (List.mem_cons_of_mem _ hmem)

theorem Unexcluded.head {text : String} {d' : Declaration} {value : Option Attached}
    (h : Unexcluded d (.option text d' value :: words)) : ∀ name ∈ d'.excludes, name ∉ d.names :=
  h _ _ _ List.mem_cons_self

/-- The reading with a switch given before all other options. -/
def prepend (r : Reading) (d : Declaration) : Reading := { r with given := (d, none) :: r.given }

theorem exclusion?_prepend {d' : Declaration} (hd' : ∀ name ∈ d'.excludes, name ∉ d.names) :
    (r.prepend d).exclusion? d' = r.exclusion? d' := by
  unfold exclusion? prepend
  generalize d'.excludes = names at hd' ⊢
  induction names with
  | nil => rfl
  | cons name names ih =>
    obtain ⟨hname, hnames⟩ := List.forall_mem_cons.mp hd'
    rw [List.findSome?_cons, List.findSome?_cons, ih hnames,
      List.find?_cons_of_neg (by simpa using hname)]

/-- An option that does not exclude the switch is taken as without it. -/
theorem give_prepend {d' : Declaration} (hd' : ∀ name ∈ d'.excludes, name ∉ d.names)
    (value : Option String) :
    (r.prepend d).give d' value = (r.give d' value).map (·.prepend d) := by
  unfold give
  rw [exclusion?_prepend hd']
  simp only
  split
  · split_ifs
    · cases r.exclusion? d' with
      | none => rfl
      | some other => rfl
    · rfl
  · cases r.exclusion? d' with
    | none => rfl
    | some other => rfl

theorem walk_give_prepend {d' : Declaration} (hd' : ∀ name ∈ d'.excludes, name ∉ d.names)
    (value : Option String)
    (ih : ∀ r : Reading, walk after (r.prepend d) words = (walk after r words).map (·.prepend d)) :
    ((r.prepend d).give d' value >>= fun r => walk after r words) =
      (r.give d' value >>= fun r => walk after r words).map (·.prepend d) := by
  rw [give_prepend hd']
  cases r.give d' value with
  | error e => rfl
  | ok r' => exact ih r'

/-- Words among which no option excludes the switch are read as without it. -/
theorem walk_prepend (hwords : Unexcluded d words) :
    walk after (r.prepend d) words = (walk after r words).map (·.prepend d) := by
  have hinput : ∀ r : Reading, (r.prepend d).input = r.input := fun _ => rfl
  fun_induction walk after r words with
  | case1 r hafter =>
    rw [hafter, walk]
    rfl
  | case2 r word rest hnone hafter =>
    rw [hafter, walk.eq_def]
    simp only [hinput, hnone]
    rfl
  | case3 r rest hafter hrest =>
    rw [hafter, walk]
    · rfl
    · exact hrest
  | case4 r text rest hafter hnone =>
    rw [hafter, walk.eq_def]
    simp only [hinput, hnone]
    rfl
  | case5 r text words hnone hlast ih =>
    rw [walk]
    · exact ih hwords.tail
    · exact hnone
    · exact hlast
  | case6 r text other words hsome ih =>
    rw [walk.eq_def]
    simp only [hinput, hsome]
    exact ih hwords.tail
  | case7 r text words ih =>
    rw [walk]
    exact ih hwords.tail
  | case8 r text d' words value hkind =>
    rw [walk.eq_def]
    simp only [hkind]
    rfl
  | case9 r text d' words value hkind =>
    rw [walk.eq_def]
    simp only [hkind]
    rfl
  | case10 r text d' words hkind ih =>
    rw [walk.eq_def]
    simp only [hkind]
    exact walk_give_prepend hwords.head _ fun r => ih r hwords.tail
  | case11 r text d' value words _ _ ih =>
    rw [walk.eq_def]
    simp only
    exact walk_give_prepend hwords.head _ fun r => ih r hwords.tail
  | case12 r text d' value words _ _ ih =>
    rw [walk.eq_def]
    simp only
    exact walk_give_prepend hwords.head _ fun r => ih r hwords.tail
  | case13 r text d' value words _ _ ih =>
    rw [walk.eq_def]
    simp only
    exact walk_give_prepend hwords.head _ fun r => ih r hwords.tail.tail
  | case14 r text d' words _ _ hvalue =>
    rw [walk.eq_def]
    simp only
    rfl

/-- A switch in front of the words of a command is given before all other options. -/
theorem ofWords_switch {ds : List Declaration} {name : String}
    (hname : Word.read ds name = .ok (.option name d none)) (hdashes : name ≠ "--")
    (hkind : d.kind = .switch) (hexcludes : d.excludes = [])
    (hexcluded : ∀ d' ∈ ds, ∀ name ∈ d'.excludes, name ∉ d.names) (words : List String) :
    ofWords ds (name :: words) = (ofWords ds words).map (·.prepend d) := by
  have hafter : afterDashes (name :: words) = afterDashes words := by
    simp [afterDashes, hdashes]
  have hgive : empty.give d none = .ok (empty.prepend d) := by
    simp only [give, hkind, exclusion?, hexcludes, List.findSome?_nil]
    rfl
  unfold ofWords
  rw [hafter, List.takeWhile_cons_of_pos (by simpa using hdashes), List.mapM_cons, hname]
  cases hread : (words.takeWhile (· ≠ "--")).mapM (Word.read ds) with
  | error e => rfl
  | ok before =>
    have hbefore : Unexcluded d before := fun _ d' _ hmem =>
      hexcluded d' (Word.mem_of_mapM_read hread hmem)
    have hfirst : walk (afterDashes words) empty (.option name d none :: before) =
        walk (afterDashes words) (empty.prepend d) before := by
      rw [walk.eq_def]
      simp only [hkind, hgive]
      rfl
    exact hfirst.trans (walk_prepend hbefore)

end Reading

/-! ### Invocations -/

namespace Invocation

/-- The same command with the check after signing. -/
def verifying : Invocation → Invocation
  | .sign o => .sign { o with verify := true }
  | invocation => invocation

def verifySwitch : Declaration := ⟨.switch, ["--verify"], []⟩

/-- The switch adds the check to the options of a reading. -/
theorem ofReading_prepend (settings : Settings) (input : String) (r : Reading) :
    ofReading settings .sign input (r.prepend verifySwitch) =
      (ofReading settings .sign input r).map verifying := by
  have hvalue : ∀ name ≠ "--verify", (r.prepend verifySwitch).value? name = r.value? name := by
    intro name hname
    simp [Reading.value?, Reading.prepend, verifySwitch, hname]
  have hembed : (r.prepend verifySwitch).last? ["--embed-pubkey", "--no-embed-pubkey"] =
      r.last? ["--embed-pubkey", "--no-embed-pubkey"] := by
    simp [Reading.last?, Reading.prepend, verifySwitch]
  have hverify : ((r.prepend verifySwitch).last? ["--verify"]).isSome = true := by
    simp [Reading.last?, Reading.prepend, verifySwitch]
  simp only [ofReading, hvalue _ (show "--output-format" ≠ "--verify" by decide),
    hvalue _ (show "--key" ≠ "--verify" by decide), hembed, hverify]
  cases OutputFormat.ofName? ((r.value? "--output-format").getD settings.outputFormat) with
  | none => rfl
  | some format => rfl

/-- With `--verify` put first, a command line that signs is read as without it, but for the
check. -/
theorem read_sign_verify (settings : Settings) (words : List String) :
    read settings ("sign" :: "--verify" :: words) =
      (read settings ("sign" :: words)).map verifying := by
  have hname : ∀ words, readName [] ("sign" :: words) = .ok (.sign, words, []) :=
    fun words => readName_word [] words .sign
  have hwords : Reading.ofWords CommandName.sign.declarations ("--verify" :: words) =
      (Reading.ofWords CommandName.sign.declarations words).map (·.prepend verifySwitch) :=
    Reading.ofWords_switch rfl (by decide) rfl rfl (by decide) words
  unfold read
  rw [hname, hname]
  simp only [bind, Except.bind, hwords]
  cases Reading.ofWords CommandName.sign.declarations words with
  | error cut => rfl
  | ok r =>
    obtain ⟨input, given, unused⟩ := r
    cases input with
    | none => rfl
    | some input =>
      have hread := ofReading_prepend settings input ⟨some input, given, unused⟩
      cases unused with
      | nil => exact hread
      | cons word unused => rfl

end Invocation

end Rs256Cose.CommandLine
