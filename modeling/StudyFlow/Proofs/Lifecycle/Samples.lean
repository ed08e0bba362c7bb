import StudyFlow.Proofs.Expansion.Outcomes
import StudyFlow.Proofs.Text.Replacement

/-!
# Commands that refer to samples

Whether an instance refers to samples is asked by the exact placeholders of labels and sample
keywords. A copy for a sample has these placeholders replaced with letters in either case. So the
answer tells whether the copy has other commands exactly if no command spells a placeholder in
letters of another case.
-/

namespace StudyFlow.Instance

variable {i : Instance} {labels : List String} {pairs : List (String × String)}

def commands (i : Instance) : List String := i.cmd :: i.restartCmd.toList

/-- What a command may refer to a sample by. -/
def sampleNames (labels : List String) : List String := labels ++ sampleKeywords

/-- Each pair puts a value in the place of a label or of a sample keyword. -/
def FillsSamples (labels : List String) (pairs : List (String × String)) : Prop :=
  ∀ p ∈ pairs, ∃ name ∈ sampleNames labels, p.1 = placeholder name

/-- Whatever stands in a command for a placeholder, up to the case of letters, is one as it is
written. -/
def SpellsExactly (labels : List String) (i : Instance) : Prop :=
  ∀ cmd ∈ i.commands, ∀ name ∈ sampleNames labels, ∀ w : String, w.toList <:+: cmd.toList →
    Text.equalFolded w (placeholder name) = true → ∃ exact ∈ sampleNames labels,
    w = placeholder exact

/-- A copy has the same commands exactly if the replacement leaves each of them as it is. -/
theorem cloneWith_keeps_iff (i : Instance) (pairs : List (String × String))
    (workspace : Option Path) (now : Millis) :
    ((i.cloneWith pairs workspace now).cmd = i.cmd ∧
      (i.cloneWith pairs workspace now).restartCmd = i.restartCmd) ↔
      ∀ cmd ∈ i.commands, replaceAll pairs cmd = cmd := by
  cases h : i.restartCmd <;> simp [commands, cloneWith, h]

/-! ## What is found -/

theorem needsSamples_iff :
    i.needsSamples labels = true ↔
      ∃ cmd ∈ i.commands, ∃ name ∈ sampleNames labels,
        (placeholder name).toList <:+: cmd.toList := by
  have hcommand : ∀ cmd, referencesAny cmd (sampleNames labels) = true ↔
      ∃ name ∈ sampleNames labels, (placeholder name).toList <:+: cmd.toList :=
    fun _ => Template.referencesAny_iff
  unfold needsSamples
  rw [Bool.or_eq_true, ← sampleNames, hcommand]
  cases h : i.restartCmd with
  | none => simp [commands, h]
  | some cmd => simp [commands, h, hcommand]

/-- Without an exact placeholder, commands that spell placeholders exactly hold none in letters of
any case. -/
theorem SpellsExactly.not_holdsFolded (h : i.SpellsExactly labels)
    (hn : i.needsSamples labels = false) :
    ∀ cmd ∈ i.commands, ∀ name ∈ sampleNames labels,
      ¬Text.HoldsFolded cmd.toList (placeholder name).toList := by
  rintro cmd hcmd name hname ⟨w, hw, hfold⟩
  have htext : (String.ofList w).toList <:+: cmd.toList := by rwa [String.toList_ofList]
  have hsame : Text.equalFolded (String.ofList w) (placeholder name) = true :=
    Text.equalFolded_iff.mpr (by rwa [String.toList_ofList])
  obtain ⟨exact, hexact, he⟩ := h cmd hcmd name hname _ htext hsame
  have hfound := needsSamples_iff.mpr ⟨cmd, hcmd, exact, hexact, he ▸ htext⟩
  rw [hn] at hfound
  cases hfound

/-! ## What is replaced -/

theorem replaceAll_of_not_holdsFolded {cmd : String}
    (h : ∀ p ∈ pairs, ¬Text.HoldsFolded cmd.toList p.1.toList) : replaceAll pairs cmd = cmd := by
  induction pairs with
  | nil => rfl
  | cons p pairs ih =>
    have hfirst := Text.replaceFolded_of_not_holdsFolded p.2 (h p List.mem_cons_self)
    unfold replaceAll at ih ⊢
    rw [List.foldl_cons, hfirst]
    exact ih fun q hq => h q (List.mem_cons_of_mem _ hq)

/-- Pairs that leave placeholders out make no command longer. -/
theorem length_replaceAll_le (tokens : List String) (cmd : String) :
    (replaceAll (tokens.map fun token => (token, "")) cmd).length ≤ cmd.length := by
  induction tokens generalizing cmd with
  | nil => exact Nat.le_refl _
  | cons token tokens ih => exact (ih _).trans (Text.length_replaceFolded_empty_le cmd token)

/-- A placeholder that a command holds in letters of some case is left out of it. -/
theorem length_replaceAll_lt {tokens : List String} {cmd token : String} (hmem : token ∈ tokens)
    (hne : token ≠ "") (h : Text.HoldsFolded cmd.toList token.toList) :
    (replaceAll (tokens.map fun token => (token, "")) cmd).length < cmd.length := by
  induction tokens generalizing cmd with
  | nil => cases hmem
  | cons first tokens ih =>
    have hrest := length_replaceAll_le tokens (Text.replaceFolded cmd first "")
    change (replaceAll _ (Text.replaceFolded cmd first "")).length < cmd.length
    by_cases hfirst : Text.HoldsFolded cmd.toList first.toList ∧ first ≠ ""
    · exact hrest.trans_lt (Text.length_replaceFolded_empty_lt hfirst.2 hfirst.1)
    · -- the first token changes nothing, so the one that is held comes later
      have hother : token ≠ first := by
        rintro rfl
        exact hfirst ⟨h, hne⟩
      have hkept : Text.replaceFolded cmd first "" = cmd := by
        by_cases he : first = ""
        · rw [he]
          rfl
        · exact Text.replaceFolded_of_not_holdsFolded "" fun hh => hfirst ⟨hh, he⟩
      rw [hkept]
      exact ih ((List.mem_cons.mp hmem).resolve_left hother) h

theorem placeholder_ne_empty (name : String) : placeholder name ≠ "" := by
  intro h
  have hchars := congrArg String.toList h
  simp [placeholder] at hchars

/-- Whatever values are filled in for labels and sample keywords, an instance that is told to need
no samples keeps both commands, and one of which a command changes is told to need them: this holds
exactly for the instances that are told to need samples or spell placeholders only as they are
written. -/
theorem needsSamples_agrees_iff (i : Instance) (labels : List String) :
    (∀ pairs, FillsSamples labels pairs → ∀ workspace now,
      (i.needsSamples labels = false →
        (i.cloneWith pairs workspace now).cmd = i.cmd ∧
          (i.cloneWith pairs workspace now).restartCmd = i.restartCmd) ∧
      ((i.cloneWith pairs workspace now).cmd ≠ i.cmd ∨
          (i.cloneWith pairs workspace now).restartCmd ≠ i.restartCmd →
        i.needsSamples labels = true)) ↔
    (i.needsSamples labels = true ∨ i.SpellsExactly labels) := by
  constructor
  · intro hagrees
    cases hn : i.needsSamples labels with
    | true => exact .inl rfl
    | false =>
      refine .inr fun cmd hcmd name hname w hw hsame => ?_
      -- leaving out every placeholder would make the command shorter
      have hfills : FillsSamples labels (((sampleNames labels).map placeholder).map fun token =>
          (token, "")) := by
        intro p hp
        obtain ⟨token, htoken, rfl⟩ := List.mem_map.mp hp
        obtain ⟨name, hname, rfl⟩ := List.mem_map.mp htoken
        exact ⟨name, hname, rfl⟩
      have hkept := (cloneWith_keeps_iff i _ none 0).mp ((hagrees _ hfills none 0).1 hn) cmd hcmd
      have hshorter := length_replaceAll_lt (List.mem_map_of_mem hname) (placeholder_ne_empty name)
        ⟨w.toList, hw, Text.equalFolded_iff.mp hsame⟩
      rw [hkept] at hshorter
      exact absurd hshorter (Nat.lt_irrefl _)
  · intro h pairs hpairs workspace now
    have hkeeps : i.needsSamples labels = false →
        (i.cloneWith pairs workspace now).cmd = i.cmd ∧
          (i.cloneWith pairs workspace now).restartCmd = i.restartCmd := by
      intro hn
      have hexact := h.resolve_left (by simp [hn])
      rw [cloneWith_keeps_iff]
      intro cmd hcmd
      refine replaceAll_of_not_holdsFolded fun p hp => ?_
      obtain ⟨name, hname, he⟩ := hpairs p hp
      rw [he]
      exact hexact.not_holdsFolded hn cmd hcmd name hname
    refine ⟨hkeeps, fun hchanged => ?_⟩
    cases hn : i.needsSamples labels with
    | true => rfl
    | false =>
      obtain ⟨hcmd, hrestart⟩ := hkeeps hn
      exact absurd hchanged (not_or.mpr ⟨not_not.mpr hcmd, not_not.mpr hrestart⟩)

/-- An instance that refers to the label `X` by a small letter. -/
def respelled : Instance := Instance.ofTemplate (Template.new "sim" "run $(x)") ⟨"sim"⟩ 0

/-- It is told to need no samples, and its copy for a sample has another command. -/
theorem cloneWith_rewrites_undetected :
    FillsSamples ["X"] [("$(X)", "1"), ("$(MERLIN_SAMPLE_ID)", "0"), ("$(MERLIN_SAMPLE_PATH)", "0"),
        ("$(merlin_sample_id)", "0"), ("$(merlin_sample_path)", "0")] ∧
      respelled.needsSamples ["X"] = false ∧
      (respelled.cloneWith [("$(X)", "1"), ("$(MERLIN_SAMPLE_ID)", "0"),
        ("$(MERLIN_SAMPLE_PATH)", "0"),
        ("$(merlin_sample_id)", "0"), ("$(merlin_sample_path)", "0")] none 0).cmd = "run 1" := by
  refine ⟨?_, by decide +kernel, by decide +kernel⟩
  intro p hp
  simp only [List.mem_cons, List.not_mem_nil, or_false] at hp
  rcases hp with rfl | rfl | rfl | rfl | rfl
  · exact ⟨"X", by decide, rfl⟩
  · exact ⟨"MERLIN_SAMPLE_ID", by decide, rfl⟩
  · exact ⟨"MERLIN_SAMPLE_PATH", by decide, rfl⟩
  · exact ⟨"merlin_sample_id", by decide, rfl⟩
  · exact ⟨"merlin_sample_path", by decide, rfl⟩

end StudyFlow.Instance
