import Mathlib.Data.List.Basic
import StudyFlow.CommandLine.Arguments
import StudyFlow.Proofs.Text.Decimal

/-!
# The grammar of the command line

Arguments are read from left to right into items: flags, the option with its value, and positional
arguments. There is an invocation exactly if all of them can be read and the positional ones name a
command with its path. The items may stand in any order, as far as the positional ones and the
options keep theirs.
-/

namespace StudyFlow.CommandLine

/-- What one or two arguments in a row say. -/
inductive Item where
  | dryRun
  | verbose
  | parallel (count : Nat)
  | positional (text : String)
  deriving DecidableEq

namespace Item

def text? : Item → Option String
  | positional text => some text
  | _ => none

def count? : Item → Option Nat
  | parallel count => some count
  | _ => none

end Item

/-- Arguments with what they say. The option takes the argument behind it as its value, whatever
that is. -/
inductive Reading : List String → List Item → Prop
  | nil : Reading [] []
  | dryRun {args : List String} {items : List Item} : Reading args items →
    Reading ("--dry-run" :: args) (.dryRun :: items)
  | verbose {arg : String} {args : List String} {items : List Item} :
    arg = "--verbose" ∨ arg = "-v" → Reading args items → Reading (arg :: args) (.verbose :: items)
  | parallel {value : String} {count : Nat} {args : List String} {items : List Item} :
    Text.IsNumeral value count → 1 ≤ count → count < UInt64.size → Reading args items →
    Reading ("--parallel" :: value :: args) (.parallel count :: items)
  | positional {text : String} {args : List String} {items : List Item} :
    text.toList.head? ≠ some '-' →
    Reading args items → Reading (text :: args) (.positional text :: items)

/-- Positional arguments that name a command with its path. -/
inductive Names : List String → Command → Prop
  | run (path : String) : Names ["run", path] (.run ⟨path⟩)
  | status (path : String) : Names ["status", path] (.status ⟨path⟩)

/-- The arguments that ask for help or for the version. -/
def questions : List String := ["--help", "-h", "--version", "-V"]

variable {args args' : List String} {items items' : List Item} {o o' : Options} {c : Command}

/-! ## Options -/

def Options.add (o : Options) : Item → Options
  | .dryRun => { o with dryRun := true }
  | .verbose => { o with verbose := true }
  | .parallel count => { o with maxParallel := some count }
  | .positional text => { o with positional := o.positional ++ [text] }

/-- Positional arguments are put in a row, a flag counts from its first place on, and the last value
of the option replaces those before. -/
theorem foldl_add (items : List Item) (o : Options) :
    items.foldl Options.add o =
      { positional := o.positional ++ items.filterMap Item.text?
        dryRun := o.dryRun || decide (.dryRun ∈ items)
        maxParallel := (items.filterMap Item.count?).getLast?.or o.maxParallel
        verbose := o.verbose || decide (.verbose ∈ items) } := by
  induction items generalizing o with
  | nil => simp
  | cons item items ih =>
    rw [List.foldl_cons, ih]
    cases item with
    | dryRun => simp [Options.add, List.filterMap_cons, Item.text?, Item.count?]
    | verbose => simp [Options.add, List.filterMap_cons, Item.text?, Item.count?]
    | positional text => simp [Options.add, List.filterMap_cons, Item.text?, Item.count?]
    | parallel count =>
      -- the value stays if no later one replaces it
      cases hlast : (items.filterMap Item.count?).getLast? <;>
        simp [Options.add, List.filterMap_cons, Item.text?, Item.count?, List.getLast?_cons, hlast]

/-! ## Readings -/

theorem numeral_head {value : String} {count : Nat} (h : Text.IsNumeral value count) :
    value.toList.head? ≠ some '-' := by
  obtain ⟨digits, hchars, hne, hdigits, -⟩ := h
  obtain ⟨d, ds, rfl⟩ := List.exists_cons_of_ne_nil hne
  rcases hchars with hchars | hchars
  · rw [hchars, List.head?_cons]
    intro hd
    have hdigit := hdigits d List.mem_cons_self
    rw [Option.some.inj hd] at hdigit
    cases hdigit
  · rw [hchars, List.head?_cons]
    nofun

theorem scan_of_reading (h : Reading args items) (o : Options) :
    scan o args = .ok (.options (items.foldl Options.add o)) := by
  induction h generalizing o with
  | nil => rfl
  | dryRun _ ih =>
    rw [scan.eq_def]
    exact ih _
  | verbose harg _ ih =>
    rw [scan.eq_def]
    rcases harg with rfl | rfl
    · exact ih _
    · exact ih _
  | @parallel value count args items hnumeral hpos hsize _ ih =>
    have hcount : Text.counter? UInt64.size value = some count :=
      Text.counter?_eq_some_iff.mpr ⟨hnumeral, hsize⟩
    obtain ⟨k, rfl⟩ : ∃ k, count = k + 1 := ⟨count - 1, by omega⟩
    rw [scan.eq_def]
    simp [hcount, ih, Options.add]
  | @positional text args items hhead _ ih =>
    -- it is none of the words that are looked for, as these start with a hyphen
    have hother : ∀ arg : String, arg.toList.head? = some '-' → text ≠ arg := by
      rintro arg harg rfl
      exact hhead harg
    rw [scan.eq_def]
    simp [hother "--help" rfl, hother "-h" rfl, hother "--version" rfl, hother "-V" rfl,
      hother "--dry-run" rfl, hother "--verbose" rfl, hother "-v" rfl,
      hother "--parallel" rfl, hhead, ih, Options.add]

/-- Where nobody asks for help or for the version, what is scanned can be read. -/
theorem exists_reading {r : Scanned} (hquiet : ∀ arg ∈ args, arg ∉ questions)
    (h : scan o args = .ok r) :
    ∃ items, Reading args items := by
  fun_induction scan o args with
  | case1 o => exact ⟨[], .nil⟩
  | case2 o arg rest hask =>
    refine absurd ?_ (hquiet arg List.mem_cons_self)
    have harg : arg = "--help" ∨ arg = "-h" := by simpa using hask
    rcases harg with rfl | rfl <;> decide
  | case3 o arg rest _ hask =>
    refine absurd ?_ (hquiet arg List.mem_cons_self)
    have harg : arg = "--version" ∨ arg = "-V" := by simpa using hask
    rcases harg with rfl | rfl <;> decide
  | case4 o arg rest _ _ hflag ih =>
    obtain ⟨items, hitems⟩ := ih (List.forall_mem_cons.mp hquiet).2 h
    obtain rfl := beq_iff_eq.mp hflag
    exact ⟨_, .dryRun hitems⟩
  | case5 o arg rest _ _ _ hflag ih =>
    obtain ⟨items, hitems⟩ := ih (List.forall_mem_cons.mp hquiet).2 h
    exact ⟨_, .verbose (by simpa using hflag) hitems⟩
  | case6 => cases h
  | case7 => cases h
  | case8 => cases h
  | case9 o arg _ _ _ _ hflag value rest n hpos hcount ih =>
    obtain ⟨-, -, hquiet⟩ := List.forall_mem_cons.mp hquiet |>.imp_right List.forall_mem_cons.mp
    obtain ⟨items, hitems⟩ := ih hquiet h
    obtain rfl := beq_iff_eq.mp hflag
    obtain ⟨hnumeral, hsize⟩ := Text.counter?_eq_some_iff.mp hcount
    exact ⟨_, .parallel hnumeral (Nat.pos_of_ne_zero hpos) hsize hitems⟩
  | case10 => cases h
  | case11 o arg rest _ _ _ _ _ hhead ih =>
    obtain ⟨items, hitems⟩ := ih (List.forall_mem_cons.mp hquiet).2 h
    exact ⟨_, .positional (by simpa using hhead) hitems⟩

/-- A flag is said exactly if it is one of the arguments, as no value of the option looks like a
flag. -/
theorem Reading.dryRun_mem_iff (h : Reading args items) : .dryRun ∈ items ↔ "--dry-run" ∈ args := by
  induction h with
  | nil => simp
  | dryRun _ ih => simp
  | verbose harg _ ih => rcases harg with rfl | rfl <;> simp [ih]
  | @parallel value _ _ _ hnumeral _ _ _ ih =>
    have hvalue : value ≠ "--dry-run" := by
      rintro rfl
      exact numeral_head hnumeral rfl
    simp [ih, hvalue.symm]
  | @positional text _ _ hhead _ ih =>
    have htext : text ≠ "--dry-run" := by
      rintro rfl
      exact hhead rfl
    simp [ih, htext.symm]

theorem Reading.verbose_mem_iff (h : Reading args items) :
    .verbose ∈ items ↔ "--verbose" ∈ args ∨ "-v" ∈ args := by
  induction h with
  | nil => simp
  | dryRun _ ih => simp [ih]
  | verbose harg _ ih => rcases harg with rfl | rfl <;> simp
  | @parallel value _ _ _ hnumeral _ _ _ ih =>
    have hvalue : value ≠ "--verbose" ∧ value ≠ "-v" := by
      constructor <;> rintro rfl <;> exact numeral_head hnumeral rfl
    simp [ih, hvalue.1.symm, hvalue.2.symm]
  | @positional text _ _ hhead _ ih =>
    have htext : text ≠ "--verbose" ∧ text ≠ "-v" := by
      constructor <;> rintro rfl <;> exact hhead rfl
    simp [ih, htext.1.symm, htext.2.symm]

/-! ## Commands -/

theorem commandOf_eq_ok_iff {positional : List String} : commandOf positional = .ok c ↔
    Names positional c := by
  constructor
  · intro h
    unfold commandOf at h
    split at h
    · cases h
      exact .run _
    · cases h
      exact .status _
    · cases h
    · cases h
    · cases h
    · split at h
      · cases h
      · split at h <;> cases h
  · rintro (path | path)
    · rfl
    · rfl

/-- The last branch of the command is never taken: a first argument that is a command has a path
behind it or nothing, or else too much. -/
theorem commandOf_ne_invalid (positional : List String) :
    commandOf positional ≠ .error .invalidArguments := by
  intro h
  unfold commandOf at h
  split at h
  · cases h
  · cases h
  · cases h
  · cases h
  · cases h
  next first rest hrun hstatus hrunAlone hstatusAlone =>
    split at h
    · cases h
    next hcommand =>
      have hfirst : first = "run" ∨ first = "status" := by
        simpa [or_iff_not_imp_left] using hcommand
      split at h
      · cases h
      next hshort =>
        match rest with
        | [] => exact hfirst.elim (fun he => hrunAlone he rfl) fun he => hstatusAlone he rfl
        | [path] => exact hfirst.elim (fun he => hrun path he rfl) fun he => hstatus path he rfl
        | path :: extra :: more => exact hshort path extra more rfl

theorem scan_ne_invalid (o : Options) (args : List String) :
    scan o args ≠ .error .invalidArguments := by
  fun_induction scan o args with
  | case4 _ _ _ _ _ _ ih => exact ih
  | case5 _ _ _ _ _ _ _ ih => exact ih
  | case9 _ _ _ _ _ _ _ _ _ _ _ _ ih => exact ih
  | case11 _ _ _ _ _ _ _ _ _ ih => exact ih
  | _ => nofun

theorem parse_ne_invalid (args : List String) : parse args ≠ .error .invalidArguments := by
  intro h
  unfold parse at h
  cases hscan : scan {} args with
  | error e =>
    rw [hscan] at h
    obtain rfl : e = .invalidArguments := Except.error.inj h
    exact scan_ne_invalid {} args hscan
  | ok scanned =>
    rw [hscan] at h
    cases scanned with
    | help => cases h
    | version => cases h
    | options o =>
      cases hcommand : commandOf o.positional with
      | error e =>
        simp only [bind, Except.bind, hcommand] at h
        obtain rfl : e = .invalidArguments := Except.error.inj h
        exact commandOf_ne_invalid o.positional hcommand
      | ok c =>
        simp only [bind, Except.bind, hcommand] at h
        cases h

/-! ## The whole line -/

def invocation (items : List Item) (c : Command) : Invocation where
  command := c
  dryRun := decide (.dryRun ∈ items)
  maxParallel := (items.filterMap Item.count?).getLast?
  verbose := decide (.verbose ∈ items)

/-- Arguments that are read ask for what their items say; only the command may still be wrong. -/
theorem parse_of_reading (h : Reading args items) :
    parse args = (commandOf (items.filterMap Item.text?)).map fun c =>
      .invoke (invocation items c) := by
  unfold parse
  rw [scan_of_reading h, foldl_add]
  simp only [bind, Except.bind, List.nil_append, Bool.false_or, Option.or_none]
  cases commandOf (items.filterMap Item.text?) with
  | error e => rfl
  | ok c => rfl

theorem exists_reading_of_parse {r : Request} (hquiet : ∀ arg ∈ args, arg ∉ questions)
    (h : parse args = .ok r) :
    ∃ items c, Reading args items ∧ Names (items.filterMap Item.text?) c := by
  cases hscan : scan {} args with
  | error e =>
    unfold parse at h
    rw [hscan] at h
    cases h
  | ok scanned =>
    obtain ⟨items, hitems⟩ := exists_reading hquiet hscan
    rw [parse_of_reading hitems] at h
    cases hcommand : commandOf (items.filterMap Item.text?) with
    | error e =>
      rw [hcommand] at h
      cases h
    | ok c => exact ⟨items, c, hitems, commandOf_eq_ok_iff.mp hcommand⟩

/-- Items in another order say the same, as far as positional arguments and options keep their
order. -/
theorem invocation_of_perm (hperm : items.Perm items')
    (hcounts : items.filterMap Item.count? = items'.filterMap Item.count?) (c : Command) :
    invocation items' c = invocation items c := by
  simp only [invocation, hcounts, hperm.mem_iff]

/-- Without a question for help or for the version, arguments are accepted exactly if they can be
read from left to right, each option with a value of at least one that fits the machine word, and
the positional ones are a command and one path. The invocation then has a flag exactly if it is
among the arguments, and the value of the last option. Where items are in another order, with the
positional arguments and the options in theirs, nothing changes, whether the arguments are accepted
or not. The error for arguments that no other error fits never comes up. -/
theorem parse_accepts_grammar (args : List String) :
    ((∀ arg ∈ args, arg ∉ questions) →
      ((∃ r, parse args = .ok r) ↔ ∃ items c, Reading args items ∧
        Names (items.filterMap Item.text?) c)) ∧
    (∀ items c, Reading args items → Names (items.filterMap Item.text?) c →
      ∃ i : Invocation, parse args = .ok (.invoke i) ∧ i.command = c ∧
        (i.dryRun = true ↔ "--dry-run" ∈ args) ∧
        (i.verbose = true ↔ "--verbose" ∈ args ∨ "-v" ∈ args) ∧
        i.maxParallel = (items.filterMap Item.count?).getLast?) ∧
    (∀ items args' items', Reading args items → Reading args' items' → items.Perm items' →
      items.filterMap Item.text? = items'.filterMap Item.text? →
      items.filterMap Item.count? = items'.filterMap Item.count? → parse args' = parse args) ∧
    parse args ≠ .error .invalidArguments := by
  have haccepts : ∀ items c, Reading args items → Names (items.filterMap Item.text?) c →
      parse args = .ok (.invoke (invocation items c)) := by
    intro items c hitems hnames
    rw [parse_of_reading hitems, commandOf_eq_ok_iff.mpr hnames]
    rfl
  refine ⟨fun hquiet => ⟨?_, ?_⟩, fun items c hitems hnames => ?_, ?_, parse_ne_invalid args⟩
  · rintro ⟨r, hr⟩
    exact exists_reading_of_parse hquiet hr
  · rintro ⟨items, c, hitems, hnames⟩
    exact ⟨_, haccepts items c hitems hnames⟩
  · refine ⟨invocation items c, haccepts items c hitems hnames, rfl, ?_, ?_, rfl⟩
    · rw [← hitems.dryRun_mem_iff]
      exact decide_eq_true_iff
    · rw [← hitems.verbose_mem_iff]
      exact decide_eq_true_iff
  · intro items args' items' hitems hitems' hperm htexts hcounts
    rw [parse_of_reading hitems, parse_of_reading hitems', htexts]
    simp only [invocation_of_perm hperm hcounts]

/-- A line with options around its positional arguments. -/
def scattered : List String := ["run", "--parallel", "2", "a.yaml", "-v", "--parallel", "+03"]

/-- The same line with the options in front or in between. -/
def gathered : List String := ["-v", "--parallel", "2", "run", "--parallel", "+03", "a.yaml"]

/-- A line with a flag in the place of a value. -/
def unvalued : List String := ["run", "a.yaml", "--parallel", "-v"]

/-- The first two lines ask for the same, and the last value counts; the third one cannot be
read. -/
theorem parse_accepts_grammar_scattered :
    (∀ arg ∈ unvalued, arg ∉ questions) ∧ (∀ items c, Reading unvalued items →
        ¬Names (items.filterMap Item.text?) c) ∧
      Reading scattered [.positional "run", .parallel 2, .positional "a.yaml", .verbose,
        .parallel 3] ∧
      Reading gathered [.verbose, .parallel 2, .positional "run", .parallel 3,
        .positional "a.yaml"] ∧
      parse scattered = .ok (.invoke ⟨.run ⟨"a.yaml"⟩, false, some 3, true⟩) ∧
      parse gathered = .ok (.invoke ⟨.run ⟨"a.yaml"⟩, false, some 3, true⟩) := by
  have hquiet : ∀ arg ∈ unvalued, arg ∉ questions := by decide
  have hrefused : parse unvalued = .error (.invalidNumber "-v") := by rfl
  obtain ⟨haccepts, -⟩ := parse_accepts_grammar unvalued
  obtain ⟨htwo, hsize⟩ : Text.IsNumeral "2" 2 ∧ 2 < UInt64.size :=
    Text.counter?_eq_some_iff.mp (by rfl)
  obtain ⟨hthree, hsize'⟩ : Text.IsNumeral "+03" 3 ∧ 3 < UInt64.size :=
    Text.counter?_eq_some_iff.mp (by rfl)
  have hscattered : Reading scattered
      [.positional "run", .parallel 2, .positional "a.yaml", .verbose, .parallel 3] :=
    .positional (by decide) (.parallel htwo (by decide) hsize (.positional (by decide)
      (.verbose (.inr rfl) (.parallel hthree (by decide) hsize' .nil))))
  have hgathered : Reading gathered
      [.verbose, .parallel 2, .positional "run", .parallel 3, .positional "a.yaml"] :=
    .verbose (.inr rfl) (.parallel htwo (by decide) hsize (.positional (by decide)
      (.parallel hthree (by decide) hsize' (.positional (by decide) .nil))))
  obtain ⟨-, hinvokes, hmoves, -⟩ := parse_accepts_grammar scattered
  obtain ⟨i, hparse, hcommand, hdry, hverbose, hcount⟩ := hinvokes _ _ hscattered (.run "a.yaml")
  have hi : i = ⟨.run ⟨"a.yaml"⟩, false, some 3, true⟩ := by
    obtain ⟨command, dryRun, maxParallel, verbose⟩ := i
    have hno : dryRun = false := Bool.eq_false_iff.mpr fun h => absurd (hdry.mp h) (by decide)
    have hyes : verbose = true := hverbose.mpr (by decide)
    rw [hno, hyes]
    exact congrArg₂ (fun c n => Invocation.mk c false n true) hcommand hcount
  rw [hi] at hparse
  have hmoved := hmoves _ gathered _ hscattered hgathered (by decide) rfl rfl
  refine ⟨hquiet, fun items c hitems hnames => ?_, hscattered, hgathered, hparse,
    hmoved.trans hparse⟩
  obtain ⟨r, hr⟩ := (haccepts hquiet).mpr ⟨items, c, hitems, hnames⟩
  rw [hrefused] at hr
  cases hr

end StudyFlow.CommandLine
