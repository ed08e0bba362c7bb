import Mathlib.Data.Option.Basic
import StudyFlow.Instance
import StudyFlow.Proofs.Text.Replacement

/-!
# Copies with replacements

A copy of an instance has a list of pairs replaced in both of its commands, one pair after the
other, so a later pair also finds what an earlier one has put in. There are no texts for which this
fails. The names, the settings, the parameter values, the study and the limit of the copy are those
of the instance.
-/

namespace StudyFlow.Instance

variable {pairs : List (String × String)} {cmd out : String}

/-- What a command becomes when the pairs are replaced in it, each in what the ones before it have
left. -/
inductive RewrittenInTurn : List (String × String) → String → String → Prop
  | nil {cmd : String} : RewrittenInTurn [] cmd cmd
  | cons {pattern by_ cmd next out : String} {pairs : List (String × String)} :
    Text.Rewritten pattern by_ cmd next → RewrittenInTurn pairs next out →
    RewrittenInTurn ((pattern, by_) :: pairs) cmd out

theorem rewrittenInTurn_iff : RewrittenInTurn pairs cmd out ↔ out = replaceAll pairs cmd := by
  constructor
  · intro h
    induction h with
    | nil => rfl
    | cons hfirst _ ih => rw [ih, Text.rewritten_iff.mp hfirst, replaceAll, replaceAll,
      List.foldl_cons]
  · rintro rfl
    induction pairs generalizing cmd with
    | nil => exact .nil
    | cons p pairs ih =>
      obtain ⟨pattern, by_⟩ := p
      exact .cons (Text.rewritten_iff.mpr rfl) ih

theorem restartCmd_cloneWith_iff (i : Instance) (workspace : Option Path) (now : Millis)
    (restart : Option String) :
    Option.Rel (RewrittenInTurn pairs) i.restartCmd restart ↔
      restart = (i.cloneWith pairs workspace now).restartCmd := by
  rw [cloneWith]
  cases i.restartCmd with
  | none =>
    constructor
    · rintro ⟨⟩
      rfl
    · rintro rfl
      exact .none
  | some cmd =>
    constructor
    · rintro ⟨h⟩
      exact congrArg some (rewrittenInTurn_iff.mp h)
    · rintro rfl
      exact .some (rewrittenInTurn_iff.mpr rfl)

/-- Every replacement up to the case of letters finds all the cuts that it makes, and comes out as
what a reader writes who goes over the text once; letters that are not ASCII are replaced only as
they are written. A copy has both commands rewritten by the pairs in turn, and its names, settings,
parameter values, study and limit from the instance. -/
theorem cloneWith_replaces_in_turn :
    (∀ text pattern by_ : String,
      Text.replaceFolded? text pattern by_ = some (Text.replaceFolded text pattern by_) ∧
        ∀ out, Text.Rewritten pattern by_ text out ↔ out = Text.replaceFolded text pattern by_) ∧
    (∀ c : Char, 128 ≤ c.toNat → ∀ d, Text.SameLetter c d ↔ c = d) ∧
    ∀ (i : Instance) (pairs : List (String × String)) (workspace : Option Path) (now : Millis),
      (∀ cmd, RewrittenInTurn pairs i.cmd cmd ↔ cmd = (i.cloneWith pairs workspace now).cmd) ∧
      (∀ restart, Option.Rel (RewrittenInTurn pairs) i.restartCmd restart ↔
        restart = (i.cloneWith pairs workspace now).restartCmd) ∧
      (i.cloneWith pairs workspace now).name = i.name ∧
      (i.cloneWith pairs workspace now).templateName = i.templateName ∧
      (i.cloneWith pairs workspace now).run = i.run ∧
      (i.cloneWith pairs workspace now).parameterIndex = i.parameterIndex ∧
      (i.cloneWith pairs workspace now).studyRoot = i.studyRoot ∧
      (i.cloneWith pairs workspace now).restartLimit = i.restartLimit := by
  refine ⟨fun text pattern by_ => ⟨?_, fun out => Text.rewritten_iff⟩,
    fun _ hc d => Text.sameLetter_of_not_ascii hc d, fun i pairs workspace now => ?_⟩
  · rw [Text.replaceFolded_eq]
    exact Text.replaceFolded?_eq text pattern by_
  · exact ⟨fun _ => rewrittenInTurn_iff, restartCmd_cloneWith_iff i workspace now, rfl, rfl, rfl,
      rfl, rfl, rfl⟩

/-- A step with a placeholder in letters of either case, beside accented letters. -/
def accented : Instance :=
  Instance.ofTemplate ((Template.new "sim" "run $(Id)É $(iD)é").withRestart "again $(ID)É")
    ⟨"sim"⟩ 0

theorem cloneWith_replaces_in_turn_accented :
    128 ≤ 'É'.toNat ∧ ¬Text.SameLetter 'É' 'é' ∧
      RewrittenInTurn [("$(id)É", "$(x)"), ("$(X)", "7")] accented.cmd "run 7 $(iD)é" ∧
      Option.Rel (RewrittenInTurn [("$(id)É", "$(x)"), ("$(X)", "7")]) accented.restartCmd
        (some "again 7") ∧
      Text.replaceFolded? "éX-ÉxÉ" "xé" "" = some "éX-ÉxÉ" := by
  obtain ⟨htexts, hletters, hcopies⟩ := cloneWith_replaces_in_turn
  obtain ⟨hcmd, hrestart, -⟩ := hcopies accented [("$(id)É", "$(x)"), ("$(X)", "7")] none 0
  have hE : 128 ≤ 'É'.toNat := by decide
  have hcase : ¬Text.SameLetter 'É' 'é' := by
    rw [hletters 'É' hE 'é']
    decide
  have hnone := (htexts "éX-ÉxÉ" "xé" "").1
  exact ⟨hE, hcase, (hcmd _).mpr (by decide +kernel), (hrestart _).mpr (by decide +kernel),
    hnone.trans (by decide +kernel)⟩

end StudyFlow.Instance
