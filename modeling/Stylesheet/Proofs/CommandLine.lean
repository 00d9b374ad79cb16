/-
  Stylesheet.Proofs.CommandLine
  ─────────────────────────────
  **WHAT COMMAND LINES ASK FOR.**

  Every file can be named and every indent be given that can be written at
  all: two hyphens before the file keep it from being read as an option, and
  an indent is written in decimal.  Without `--help` a command line of `render` asks for nothing but
  a sheet.

  Main statements:
    * `integer?_toString` — a number that is written is read back;
    * `read_normalize`, `read_render` — any file and any such indent;
    * `mem_of_has` — an option without letter and value is set by its own
      spelling alone;
    * `isRender_of_read` — without `--help`, `--version` and `normalize` there
      is nothing to ask for but a sheet.
-/
import Stylesheet.Cli.Run
import Stylesheet.Proofs.Word

namespace Stylesheet

/-! ## §1. Numbers. -/

namespace Text

theorem digitValue?_of_isDigit {c : Char} (hc : c.isDigit = true) :
    Unicode.digitValue? c = some (c.toNat - '0'.toNat) := by
  have bounds : 0x30 ≤ c.toNat ∧ c.toNat ≤ 0x39 := Char.isDigit_iff_toNat.mp hc
  have first : (decide (0x30 ≤ c.toNat) && decide (c.toNat < 0x30 + 10)) = true := by
    simp only [Bool.and_eq_true, decide_eq_true_eq]
    omega
  -- the zero of these digits stands first in the table
  obtain ⟨others, table⟩ : ∃ others, Unicode.digitZeros = 0x30 :: others := ⟨_, rfl⟩
  simp only [Unicode.digitValue?, table, List.find?_cons, first]
  rfl

/-- Digits have their values, one by one. -/
theorem digits?_of_isDigit {s : List Char} (hne : s ≠ []) (hs : ∀ c ∈ s, c.isDigit = true) :
    digits? s = some (s.map fun c => c.toNat - '0'.toNat) := by
  induction s with
  | nil => exact absurd rfl hne
  | cons c rest ih =>
      have value := digitValue?_of_isDigit (hs c List.mem_cons_self)
      have others : ∀ d ∈ rest, d.isDigit = true := fun d hd => hs d (List.mem_cons_of_mem c hd)
      cases rest with
      | nil =>
          rw [digits?, value]
          rfl
      | cons d rest =>
          -- a digit is no low line
          have line : d ≠ '_' := (Json.ne_of_isDigit (others d List.mem_cons_self) rfl).symm
          rw [digits?, value, ih (List.cons_ne_nil d rest) others]
          · rfl
          · simp
          · intro tail same
            exact line (List.cons.inj same).1

theorem isMargin_of_isDigit {c : Char} (hc : c.isDigit = true) : isMargin c = false := by
  have bounds : 0x30 ≤ c.toNat ∧ c.toNat ≤ 0x39 := Char.isDigit_iff_toNat.mp hc
  have blank : Unicode.isBlank c = false := by
    rw [Unicode.isBlank, Bool.eq_false_iff]
    intro h
    obtain ⟨r, hr, hlow, hhigh⟩ := Unicode.exists_of_inRanges h
    have apart : ∀ r ∈ Unicode.blankRanges, r.2 < 0x30 ∨ 0x39 < r.1 := by decide
    rcases apart r hr with below | above <;> omega
  rw [isMargin, blank]
  rfl

/-- A text of digits has no margins. -/
theorem dropWhile_isMargin {s : List Char} (hs : ∀ c ∈ s, c.isDigit = true) :
    s.dropWhile isMargin = s := by
  cases s with
  | nil => rfl
  | cons c rest =>
      rw [List.dropWhile_cons, isMargin_of_isDigit (hs c List.mem_cons_self)]
      rfl

/-- **A number that is written is read back**, if it has not too many
digits. -/
theorem integer?_toString {n : Nat} (short : n < 10 ^ maxDigits) :
    integer? (toString n) = some (n : Int) := by
  have digit : ∀ c ∈ Nat.toDigits 10 n, c.isDigit = true :=
    fun c hc => Nat.isDigit_of_mem_toDigits (by decide) (by decide) hc
  have reversed : ∀ c ∈ (Nat.toDigits 10 n).reverse, c.isDigit = true :=
    fun c hc => digit c (List.mem_reverse.mp hc)
  have value : ofDigits ((Nat.toDigits 10 n).map fun c => c.toNat - '0'.toNat) = n := by
    rw [ofDigits, List.foldl_map]
    exact Json.digitsValue_toDigits n
  have text : (toString n).toList = Nat.toDigits 10 n := Nat.toList_repr
  have read : natural? (Nat.toDigits 10 n) = some n := by
    have length := (Nat.length_toDigits_le_iff (by decide) (by decide)).mpr short
    rw [natural?, digits?_of_isDigit Nat.toDigits_ne_nil digit, Option.bind_eq_bind,
      Option.bind_some, List.length_map, if_pos length, value]
    rfl
  simp only [integer?, text, dropWhile_isMargin digit, dropWhile_isMargin reversed,
    List.reverse_reverse]
  -- a digit is no sign
  split
  · next same => exact absurd (digit '-' (same ▸ List.mem_cons_self)) (by decide)
  · next same => exact absurd (digit '+' (same ▸ List.mem_cons_self)) (by decide)
  · rw [read]
    rfl

end Text

namespace Cli

/-! ## §2. Any file and any indent. -/

/-- Any file can be normalized. -/
theorem read_normalize (file : String) :
    Request.read ["normalize", "--", file] = some (.command false (.normalize file)) := by
  have request : normalizeRequest false ["--", file] = some (.command false (.normalize file)) := by
    rw [normalizeRequest, readArguments]
    rfl
  rw [Request.read, readArguments]
  exact request

theorem readArguments_render (file number : String) :
    readArguments renderSpecs true ["--indent", number, "--", file]
      = some ⟨[("indent", some number)], [file]⟩ := by
  have behind : readArguments renderSpecs true ["--", file] = some ⟨[], [file]⟩ := by
    rw [readArguments]
    rfl
  rw [readArguments]
  show Option.map _ (readArguments renderSpecs true ["--", file]) = _
  rw [behind]
  rfl

/-- Any file can be rendered, with any indent that can be written. -/
theorem read_render (file : String) {indent : Nat} (short : indent < 10 ^ maxDigits) :
    Request.read ["render", "--indent", toString indent, "--", file]
      = some (.command false (.render file none indent)) := by
  have hindent : indentOf ⟨[("indent", some (toString indent))], [file]⟩ = some indent := by
    show (Text.integer? (toString indent)).bind Int.toNat? = some indent
    rw [Text.integer?_toString short]
    rfl
  have help : Arguments.has ⟨[("indent", some (toString indent))], [file]⟩ "help" = false := by
    rfl
  have output : Arguments.last? ⟨[("indent", some (toString indent))], [file]⟩ "output" = none := by
    rfl
  have request : renderRequest false ["--indent", toString indent, "--", file]
      = some (.command false (.render file none indent)) := by
    simp only [renderRequest, readArguments_render, Option.bind_eq_bind, Option.bind_some, help,
      output, hindent]
    rfl
  rw [Request.read, readArguments]
  exact request

/-! ## §3. Options without a letter and a value. -/

/-- An option of this name has no letter and takes no value. -/
def IsBare (specs : List OptionSpec) (long : String) : Prop :=
  ∀ spec ∈ specs, spec.long = long → spec.short = none ∧ spec.takesValue = false

section Bare

variable {specs : List OptionSpec} {long : String}

/-- Among long options only the one spelled like it sets a bare option. -/
theorem readLong_bare (bare : IsBare specs long) {body : List Char} {reading : Reading}
    (h : readLong specs body = some reading) :
    (∀ setting ∈ reading.settings, setting.1 = long →
        body = long.toList ∧ ∃ spec ∈ specs, spec.long = long)
      ∧ reading.waiting ≠ some long := by
  unfold readLong at h
  dsimp only at h
  split at h
  · cases h
  · next spec found =>
      have known := List.mem_of_find?_eq_some found
      have name : spec.long = String.ofList (body.takeWhile (· ≠ '=')) := by
        simpa using List.find?_some found
      -- an option that takes a value is none of this name
      have other : spec.takesValue = true → spec.long ≠ long := by
        intro valued same
        rw [(bare spec known same).2] at valued
        cases valued
      split at h
      · next hvalue =>
          obtain rfl := Option.some.inj h
          exact ⟨nofun, fun same => other hvalue (Option.some.inj same)⟩
      · next hrest hvalue =>
          obtain rfl := Option.some.inj h
          refine ⟨?_, nofun⟩
          intro setting hsetting same
          obtain rfl := List.mem_singleton.mp hsetting
          have whole := List.takeWhile_append_dropWhile (p := (· ≠ '=')) (l := body)
          rw [hrest, List.append_nil] at whole
          refine ⟨?_, spec, known, same⟩
          rw [← whole, ← String.toList_ofList (l := List.takeWhile _ _), ← name]
          exact congrArg String.toList same
      · next hvalue =>
          obtain rfl := Option.some.inj h
          refine ⟨?_, nofun⟩
          intro setting hsetting same
          obtain rfl := List.mem_singleton.mp hsetting
          exact absurd same (other hvalue)
      · cases h

/-- Short options set no bare option. -/
theorem readShort_bare (bare : IsBare specs long) {letters : List Char} {reading : Reading}
    (h : readShort specs letters = some reading) :
    (∀ setting ∈ reading.settings, setting.1 ≠ long) ∧ reading.waiting ≠ some long := by
  induction letters generalizing reading with
  | nil =>
      obtain rfl := Option.some.inj h
      exact ⟨nofun, nofun⟩
  | cons letter rest ih =>
      rw [readShort] at h
      split at h
      · cases h
      · next spec found =>
          have short : spec.short = some letter := by simpa using List.find?_some found
          have other : spec.long ≠ long := by
            intro same
            rw [(bare spec (List.mem_of_find?_eq_some found) same).1] at short
            cases short
          split at h
          · split at h
            · obtain rfl := Option.some.inj h
              exact ⟨nofun, fun same => other (Option.some.inj same)⟩
            · obtain rfl := Option.some.inj h
              exact ⟨List.forall_mem_singleton.mpr other, nofun⟩
          · obtain ⟨reading, hreading, rfl⟩ := Option.map_eq_some_iff.mp h
            obtain ⟨settings, waiting⟩ := ih hreading
            exact ⟨List.forall_mem_cons.mpr ⟨other, settings⟩, waiting⟩

/-- Go on behind an argument with options. -/
def readBehind (specs : List OptionSpec) (interspersed : Bool) (reading : Option Reading)
    (rest : List String) : Option Arguments :=
  match reading, rest with
  | none, _ => none
  | some ⟨settings, none⟩, rest =>
      (readArguments specs interspersed rest).map (.addSettings settings)
  | some ⟨_, some _⟩, [] => none
  | some ⟨settings, some long⟩, value :: rest =>
      (readArguments specs interspersed rest).map
        (.addSettings (settings ++ [(long, some value)]))

theorem readArguments_cons (specs : List OptionSpec) (interspersed : Bool) (argument : String)
    (rest : List String) :
    readArguments specs interspersed (argument :: rest)
      = match ArgumentKind.of argument with
        | .endOfOptions => some ⟨[], rest⟩
        | .long body => readBehind specs interspersed (readLong specs body) rest
        | .short letters => readBehind specs interspersed (readShort specs letters) rest
        | .positional =>
            if interspersed then
              (readArguments specs interspersed rest).map (.addPositional argument)
            else some ⟨[], argument :: rest⟩ := by
  rw [readArguments]
  rfl

/-- Behind an argument with options the others are read, with or without the
first as a value. -/
theorem readBehind_cases {interspersed : Bool} {reading? : Option Reading} {rest : List String}
    {found : Arguments} (h : readBehind specs interspersed reading? rest = some found) :
    ∃ reading settings later others, reading? = some reading ∧ later <:+ rest
      ∧ readArguments specs interspersed later = some others
      ∧ found = others.addSettings (reading.settings ++ settings)
      ∧ ∀ setting ∈ settings, reading.waiting = some setting.1 := by
  match reading?, rest with
  | none, _ => cases h
  | some ⟨settings, none⟩, rest =>
      obtain ⟨others, hothers, rfl⟩ := Option.map_eq_some_iff.mp h
      refine ⟨_, [], rest, others, rfl, List.suffix_refl rest, hothers, ?_, nofun⟩
      rw [List.append_nil]
  | some ⟨_, some _⟩, [] => cases h
  | some ⟨settings, some name⟩, value :: rest =>
      obtain ⟨others, hothers, rfl⟩ := Option.map_eq_some_iff.mp h
      exact ⟨_, [(name, some value)], rest, others, rfl, List.suffix_cons value rest, hothers, rfl,
        List.forall_mem_singleton.mpr rfl⟩

theorem toList_of_long {argument : String} {body : List Char}
    (h : ArgumentKind.of argument = .long body) : argument.toList = '-' :: '-' :: body := by
  unfold ArgumentKind.of at h
  split at h
  case h_2 same =>
    obtain rfl := ArgumentKind.long.inj h
    exact same
  all_goals cases h

theorem has_addSettings {settings : List Setting} {arguments : Arguments} :
    (arguments.addSettings settings).has long = true
      ↔ (∃ setting ∈ settings, setting.1 = long) ∨ arguments.has long = true := by
  simp [Arguments.has, Arguments.addSettings, List.any_append]

/-- What is set behind an argument is set by it or further on. -/
theorem has_of_readBehind {interspersed : Bool} {reading? : Option Reading} {rest : List String}
    {found : Arguments} (h : readBehind specs interspersed reading? rest = some found)
    (waiting : ∀ reading, reading? = some reading → reading.waiting ≠ some long)
    (set : found.has long = true) :
    (∃ reading, reading? = some reading ∧ ∃ setting ∈ reading.settings, setting.1 = long)
      ∨ ∃ later others, later <:+ rest ∧ readArguments specs interspersed later = some others
        ∧ others.has long = true := by
  obtain ⟨reading, settings, later, others, hreading, hlater, hothers, rfl, waits⟩ :=
    readBehind_cases h
  rcases has_addSettings.mp set with ⟨setting, hsetting, same⟩ | further
  · rcases List.mem_append.mp hsetting with here | last
    · exact Or.inl ⟨reading, hreading, setting, here, same⟩
    · exact absurd (same ▸ waits setting last) (waiting reading hreading)
  · exact Or.inr ⟨later, others, hlater, hothers, further⟩

/-- **A bare option is set by its own spelling alone**, if it is known. -/
theorem mem_of_has (bare : IsBare specs long) {interspersed : Bool} :
    ∀ (arguments : List String) (found : Arguments),
      readArguments specs interspersed arguments = some found → found.has long = true →
        "--" ++ long ∈ arguments ∧ ∃ spec ∈ specs, spec.long = long
  | [], found, h, set => by
      obtain rfl := Option.some.inj h
      cases set
  | argument :: rest, found, h, set => by
      -- what is set behind this argument is so by another one
      have further : (∃ later others, later <:+ rest
          ∧ readArguments specs interspersed later = some others ∧ others.has long = true) →
          "--" ++ long ∈ argument :: rest ∧ ∃ spec ∈ specs, spec.long = long := by
        intro given
        obtain ⟨later, others, hsuffix, hothers, others_set⟩ := given
        have := hsuffix.length_le
        obtain ⟨mem, known⟩ := mem_of_has bare later others hothers others_set
        exact ⟨List.mem_cons_of_mem argument (hsuffix.subset mem), known⟩
      rw [readArguments_cons] at h
      cases hkind : ArgumentKind.of argument with
      | endOfOptions =>
          rw [hkind] at h
          obtain rfl := Option.some.inj h
          cases set
      | long body =>
          simp only [hkind] at h
          rcases has_of_readBehind h (fun _ hreading => (readLong_bare bare hreading).2) set with
            ⟨reading, hreading, setting, hsetting, same⟩ | later
          · obtain ⟨hbody, known⟩ := (readLong_bare bare hreading).1 setting hsetting same
            have spelled : argument.toList = ("--" ++ long).toList := by
              rw [toList_of_long hkind, hbody, String.toList_append]
              rfl
            rw [String.toList_injective spelled]
            exact ⟨List.mem_cons_self, known⟩
          · exact further later
      | short letters =>
          simp only [hkind] at h
          rcases has_of_readBehind h (fun _ hreading => (readShort_bare bare hreading).2) set with
            ⟨reading, hreading, setting, hsetting, same⟩ | later
          · exact absurd same ((readShort_bare bare hreading).1 setting hsetting)
          · exact further later
      | positional =>
          simp only [hkind] at h
          split at h
          · obtain ⟨others, hothers, rfl⟩ := Option.map_eq_some_iff.mp h
            exact further ⟨rest, others, List.suffix_refl rest, hothers, set⟩
          · obtain rfl := Option.some.inj h
            cases set
termination_by arguments => arguments.length
decreasing_by
  rw [List.length_cons]
  omega

/-- What is read as no option stands among the arguments. -/
theorem positional_subset {interspersed : Bool} :
    ∀ (arguments : List String) (found : Arguments),
      readArguments specs interspersed arguments = some found → found.positional ⊆ arguments
  | [], found, h => by
      obtain rfl := Option.some.inj h
      exact List.Subset.refl []
  | argument :: rest, found, h => by
      have behind : ∀ reading?, readBehind specs interspersed reading? rest = some found →
          found.positional ⊆ argument :: rest := by
        intro reading? hbehind
        obtain ⟨_, _, later, others, -, hsuffix, hothers, rfl, -⟩ := readBehind_cases hbehind
        have := hsuffix.length_le
        have among := positional_subset later others hothers
        exact List.subset_cons_of_subset argument (List.Subset.trans among hsuffix.subset)
      rw [readArguments_cons] at h
      cases hkind : ArgumentKind.of argument with
      | endOfOptions =>
          simp only [hkind] at h
          obtain rfl := Option.some.inj h
          exact List.subset_cons_self argument rest
      | long _ | short _ =>
          simp only [hkind] at h
          exact behind _ h
      | positional =>
          simp only [hkind] at h
          split at h
          · obtain ⟨others, hothers, rfl⟩ := Option.map_eq_some_iff.mp h
            exact List.cons_subset_cons argument (positional_subset rest others hothers)
          · obtain rfl := Option.some.inj h
            exact List.Subset.refl _
termination_by arguments => arguments.length
decreasing_by
  all_goals
    rw [List.length_cons]
    omega

end Bare

/-! ## §4. Command lines of one command. -/

/-- A request for a sheet. -/
def Request.IsRender : Request → Prop
  | .command _ (.render ..) => True
  | _ => False

/-- **Without `--help` no help is asked for**, if it is asked for in this way
alone. -/
theorem has_help_eq_false {specs : List OptionSpec} (bare : IsBare specs "help")
    {interspersed : Bool} {arguments : List String} (hhelp : "--help" ∉ arguments)
    {found : Arguments} (h : readArguments specs interspersed arguments = some found) :
    found.has "help" = false := by
  rw [Bool.eq_false_iff]
  intro help
  exact hhelp (mem_of_has bare arguments found h help).1

/-- Without `--help` the arguments of `render` ask for a sheet, or for nothing
at all. -/
theorem isRender_of_renderRequest {verbose : Bool} {arguments : List String}
    (hhelp : "--help" ∉ arguments) {request : Request}
    (h : renderRequest verbose arguments = some request) : request.IsRender := by
  have bare : IsBare renderSpecs "help" := by
    unfold IsBare
    decide
  rw [renderRequest] at h
  obtain ⟨found, hfound, h⟩ := Option.bind_eq_some_iff.mp h
  rw [has_help_eq_false bare hhelp hfound, if_neg Bool.false_ne_true] at h
  split at h
  · obtain ⟨indent, -, h⟩ := Option.bind_eq_some_iff.mp h
    obtain rfl := Option.some.inj h
    exact trivial
  · cases h

/-- Without `--help` the arguments of `normalize` ask for the flattened tree,
or for nothing at all. -/
theorem isNormalize_of_normalizeRequest {verbose : Bool} {arguments : List String}
    (hhelp : "--help" ∉ arguments) {request : Request}
    (h : normalizeRequest verbose arguments = some request) :
    ∃ file, request = .command verbose (.normalize file) := by
  have bare : IsBare [helpSpec] "help" := by
    unfold IsBare
    decide
  rw [normalizeRequest] at h
  obtain ⟨found, hfound, h⟩ := Option.bind_eq_some_iff.mp h
  rw [has_help_eq_false bare hhelp hfound, if_neg Bool.false_ne_true] at h
  split at h
  · exact ⟨_, (Option.some.inj h).symm⟩
  · cases h

/-- Before the command there is no question but these two. -/
theorem question?_eq_none {arguments : List String} (hhelp : "--help" ∉ arguments)
    (hversion : "--version" ∉ arguments) {found : Arguments}
    (h : readArguments groupSpecs false arguments = some found) : question? found = none := by
  have silent : found.settings.find? (fun setting => setting.1 ≠ "verbose") = none := by
    rw [List.find?_eq_none]
    intro setting hsetting
    rw [decide_eq_true_eq]
    intro other
    have bare : IsBare groupSpecs setting.1 := by
      have others : ∀ spec ∈ groupSpecs, spec.long ≠ "verbose" →
          spec.short = none ∧ spec.takesValue = false := by
        decide
      intro spec known same
      exact others spec known (same ▸ other)
    have set : found.has setting.1 = true :=
      List.any_eq_true.mpr ⟨setting, hsetting, decide_eq_true rfl⟩
    obtain ⟨mem, spec, known, same⟩ := mem_of_has bare arguments found h set
    have names : ∀ spec ∈ groupSpecs,
        spec.long = "version" ∨ spec.long = "verbose" ∨ spec.long = "help" := by
      decide
    rw [← same] at mem other
    rcases names spec known with version | verbose | help
    · rw [version] at mem
      exact hversion mem
    · exact other verbose
    · rw [help] at mem
      exact hhelp mem
  rw [question?, silent]

/-- **A command line without `--help` and `--version` asks for a sheet**, for a
flattened tree, or for nothing at all. -/
theorem isRender_of_read {arguments : List String} (hhelp : "--help" ∉ arguments)
    (hversion : "--version" ∉ arguments)
    (other : ∀ verbose file, Request.read arguments ≠ some (.command verbose (.normalize file)))
    {request : Request} (h : Request.read arguments = some request) : request.IsRender := by
  have asked := h
  rw [Request.read] at h
  obtain ⟨found, hfound, h⟩ := Option.bind_eq_some_iff.mp h
  have among := positional_subset arguments found hfound
  simp only [question?_eq_none hhelp hversion hfound] at h
  split at h
  · next rest hrest =>
      rw [hrest] at among
      have behind : "--help" ∉ rest := fun mem => hhelp (among (List.mem_cons_of_mem _ mem))
      obtain ⟨file, rfl⟩ := isNormalize_of_normalizeRequest behind h
      exact absurd asked (other _ file)
  · next rest hrest =>
      rw [hrest] at among
      have behind : "--help" ∉ rest := fun mem => hhelp (among (List.mem_cons_of_mem _ mem))
      exact isRender_of_renderRequest behind h
  · obtain ⟨again, hagain, h⟩ := Option.bind_eq_some_iff.mp h
    rw [question?_eq_none (fun mem => hhelp (among mem)) (fun mem => hversion (among mem)) hagain]
      at h
    cases h

end Cli

end Stylesheet
