import Mathlib.Tactic.Common
import TagMarkup.Command.Options

/-!
# Arguments

**Theorem (`Options.ofArguments_lastWins`).** The arguments of the command are allowed if each of
them is a document or an option with one of its values, and there is at most one document. Arguments
that are allowed say what is asked for: of the options with values the last one counts, the others
count wherever they stand, and so does the document. Where arguments are not allowed, the error is
about the first one that must not follow those in front of it, also behind a wish for help. So
arguments may be put in any order in which the colors and the formats follow each other as before.

Reading is followed along the arguments read so far: what they ask for is known in front of each
argument (`Options.Reached`), and the argument either adds to it or is the one that is reported
(`Options.Reached.step`). The last option counts because the next argument stands at the end of
those that are read.
-/

namespace TagMarkup

/-! ## What arguments may be -/

/-- The name that an option gives to a color mode. -/
def ColorMode.name : ColorMode → String
  | auto => "auto"
  | always => "always"
  | never => "never"

/-- The name that an option gives to a format. -/
def Format.name : Format → String
  | text => "text"
  | json => "json"

/-- The source that a document among the arguments stands for. -/
def Source.ofName (name : String) : Source := if name = "-" then .console else .file name

/-- The help is asked for somewhere among the arguments. -/
def AsksForHelp (arguments : List String) : Prop := "-h" ∈ arguments ∨ "--help" ∈ arguments

namespace Arguments

/-- The argument is a document: a single dash, or no dash at its start. -/
def isDocument (argument : String) : Bool :=
  argument = "-" || argument.toList.head? != some '-'

/-- The argument is an option, with one of its values if it has any. -/
def IsOption (argument : String) : Prop :=
  argument ∈ ["-h", "--help", "--tree"] ∨
    (∃ mode : ColorMode, argument = "--color=" ++ mode.name) ∨
    ∃ f : Format, argument = "--format=" ++ f.name

/-- Whether an argument starts like this. -/
def starts (beginning argument : String) : Bool := beginning.toList.isPrefixOf argument.toList

/-- The documents among the arguments. -/
def documents (arguments : List String) : List String := arguments.filter isDocument

/-- Those of the arguments that start like this. -/
def startingWith (beginning : String) (arguments : List String) : List String :=
  arguments.filter (starts beginning)

/-- All arguments but one document at most are options. -/
structure Allowed (arguments : List String) : Prop where
  isOption : ∀ a ∈ arguments, isDocument a = false → IsOption a
  length_documents : (documents arguments).length ≤ 1

/-- The value is that of the last option that starts like this, or the usual one without any. -/
def LastValue {α : Type} (beginning : String) (name : α → String) (usual : α)
    (arguments : List String) (value : α) : Prop :=
  match (startingWith beginning arguments).getLast? with
  | none => value = usual
  | some last => last = beginning ++ name value

/-- The options are what the arguments ask for. -/
structure Sets (arguments : List String) (options : Options) : Prop where
  color : LastValue "--color=" ColorMode.name .auto arguments options.color
  format : LastValue "--format=" Format.name .text arguments options.format
  tree : options.tree = true ↔ "--tree" ∈ arguments
  help : options.help = true ↔ AsksForHelp arguments
  source : options.source = ((documents arguments).head?.map Source.ofName).getD .console

/-- The error tells what is wrong with an argument that must not stand where it stands. -/
structure Describes (argument : String) (e : UsageError) : Prop where
  /-- Only a document in front of it can be in the way of a document. -/
  document : isDocument argument = true → e = .extraArgument argument
  color : ∀ value, argument = "--color=" ++ value →
    e = .invalidValue "--color" value "auto, always or never"
  format : ∀ value, argument = "--format=" ++ value →
    e = .invalidValue "--format" value "text or json"
  other : isDocument argument = false → (∀ value, argument ≠ "--color=" ++ value) →
    (∀ value, argument ≠ "--format=" ++ value) → e = .unknownOption argument

/-- The error is about the first of the arguments that is not allowed behind those before it. -/
def FirstFault (arguments : List String) (e : UsageError) : Prop :=
  ∃ front argument rest, arguments = front ++ argument :: rest ∧ Allowed front ∧
    ¬ Allowed (front ++ [argument]) ∧ Describes argument e

end Arguments

open Arguments

/-! ## Single arguments -/

theorem valueBehind?_eq_some_iff {beginning argument value : String} :
    valueBehind? beginning argument = some value ↔ argument = beginning ++ value := by
  rw [← String.toList_inj, String.toList_append, valueBehind?]
  split_ifs with h
  · obtain ⟨rest, hrest⟩ := List.isPrefixOf_iff_prefix.1 h
    rw [← hrest, ← String.length_toList, List.drop_left, Option.some.injEq,
      List.append_cancel_left_eq, ← String.toList_inj, String.toList_ofList]
  · refine ⟨nofun, fun heq => absurd (List.isPrefixOf_iff_prefix.2 ⟨_, heq.symm⟩) h⟩

theorem valueBehind?_eq_none_iff {beginning argument : String} :
    valueBehind? beginning argument = none ↔ ∀ value, argument ≠ beginning ++ value := by
  simp only [Option.eq_none_iff_forall_ne_some, Ne, valueBehind?_eq_some_iff]

theorem ColorMode.ofName?_eq_some_iff {name : String} {mode : ColorMode} :
    ofName? name = some mode ↔ name = mode.name := by
  refine ⟨fun h => ?_, ?_⟩
  · rw [ofName?] at h
    split_ifs at h <;> cases h <;> assumption
  · rintro rfl
    cases mode <;> rfl

theorem ColorMode.name_injective : Function.Injective ColorMode.name := by
  intro mode mode' h
  exact Option.some.inj ((ofName?_eq_some_iff.2 h).symm.trans (ofName?_eq_some_iff.2 rfl)).symm

theorem Format.ofName?_eq_some_iff {name : String} {f : Format} :
    ofName? name = some f ↔ name = f.name := by
  refine ⟨fun h => ?_, ?_⟩
  · rw [ofName?] at h
    split_ifs at h <;> cases h <;> assumption
  · rintro rfl
    cases f <;> rfl

theorem Format.name_injective : Function.Injective Format.name := by
  intro f f' h
  exact Option.some.inj ((ofName?_eq_some_iff.2 h).symm.trans (ofName?_eq_some_iff.2 rfl)).symm

/-- No value makes another argument of an option. -/
theorem ne_append_of_valueBehind? {beginning argument : String}
    (h : valueBehind? beginning argument = none) (value : String) :
    beginning ++ value ≠ argument := (valueBehind?_eq_none_iff.1 h value).symm

theorem Arguments.isDocument_of_dashes {argument : String} {cs : List Char}
    (h : argument.toList = '-' :: '-' :: cs) : isDocument argument = false := by
  have hdash : argument ≠ "-" := by
    rintro rfl
    simp at h
  simp [isDocument, hdash, h]

theorem Arguments.color_ne_format (value value' : String) :
    "--color=" ++ value ≠ "--format=" ++ value' := by
  intro h
  simpa using congrArg String.toList h

namespace Request

theorem ofArgument_color (value : String) :
    ofArgument ("--color=" ++ value) =
      match ColorMode.ofName? value with
      | some mode => .ok (.color mode)
      | none => .error (.invalidValue "--color" value "auto, always or never") := by
  have hvalue : valueBehind? "--color=" ("--color=" ++ value) = some value :=
    valueBehind?_eq_some_iff.2 rfl
  have hhelp : ¬ ("--color=" ++ value = "-h" ∨ "--color=" ++ value = "--help") := by
    rintro (h | h) <;> exact ne_append_of_valueBehind? (by decide) value h
  have htree : "--color=" ++ value ≠ "--tree" := ne_append_of_valueBehind? (by decide) value
  cases hname : ColorMode.ofName? value <;>
    simp only [ofArgument, if_neg hhelp, if_neg htree, hvalue, hname]

theorem ofArgument_format (value : String) :
    ofArgument ("--format=" ++ value) =
      match Format.ofName? value with
      | some f => .ok (.format f)
      | none => .error (.invalidValue "--format" value "text or json") := by
  have hvalue : valueBehind? "--format=" ("--format=" ++ value) = some value :=
    valueBehind?_eq_some_iff.2 rfl
  have hcolor : valueBehind? "--color=" ("--format=" ++ value) = none :=
    valueBehind?_eq_none_iff.2 fun value' h => color_ne_format value' value h.symm
  have hhelp : ¬ ("--format=" ++ value = "-h" ∨ "--format=" ++ value = "--help") := by
    rintro (h | h) <;> exact ne_append_of_valueBehind? (by decide) value h
  have htree : "--format=" ++ value ≠ "--tree" := ne_append_of_valueBehind? (by decide) value
  cases hname : Format.ofName? value <;>
    simp only [ofArgument, if_neg hhelp, if_neg htree, hcolor, hvalue, hname]

theorem ofArgument_of_other {argument : String} (hcolor : ∀ value, argument ≠ "--color=" ++ value)
    (hformat : ∀ value, argument ≠ "--format=" ++ value) :
    ofArgument argument =
      if argument = "-h" ∨ argument = "--help" then .ok .help
      else if argument = "--tree" then .ok .tree
      else if isDocument argument then .ok (.document (Source.ofName argument))
      else .error (.unknownOption argument) := by
  rw [ofArgument, valueBehind?_eq_none_iff.2 hcolor, valueBehind?_eq_none_iff.2 hformat]
  by_cases hdash : argument = "-"
  · subst hdash
    rfl
  · by_cases hhead : argument.toList.head? = some '-' <;>
      simp [isDocument, Source.ofName, hdash, hhead]

end Request

namespace Arguments

theorem isOption_color_iff {value : String} :
    IsOption ("--color=" ++ value) ↔ ∃ mode, ColorMode.ofName? value = some mode := by
  simp only [ColorMode.ofName?_eq_some_iff]
  refine ⟨?_, fun ⟨mode, h⟩ => .inr (.inl ⟨mode, h ▸ rfl⟩)⟩
  rintro (h | ⟨mode, h⟩ | ⟨f, h⟩)
  · have hplain : ∀ a ∈ ["-h", "--help", "--tree"], valueBehind? "--color=" a = none := by decide
    exact absurd rfl (ne_append_of_valueBehind? (hplain _ h) value)
  · exact ⟨mode, String.append_right_inj _ |>.1 h⟩
  · exact absurd h (color_ne_format value f.name)

theorem isOption_format_iff {value : String} :
    IsOption ("--format=" ++ value) ↔ ∃ f, Format.ofName? value = some f := by
  simp only [Format.ofName?_eq_some_iff]
  refine ⟨?_, fun ⟨f, h⟩ => .inr (.inr ⟨f, h ▸ rfl⟩)⟩
  rintro (h | ⟨mode, h⟩ | ⟨f, h⟩)
  · have hplain : ∀ a ∈ ["-h", "--help", "--tree"], valueBehind? "--format=" a = none := by decide
    exact absurd rfl (ne_append_of_valueBehind? (hplain _ h) value)
  · exact absurd h.symm (color_ne_format mode.name value)
  · exact ⟨f, String.append_right_inj _ |>.1 h⟩

/-- What an argument comes to, whatever stands in front of it. -/
inductive Means : String → Except UsageError Request → Prop
  | help {argument : String} : argument = "-h" ∨ argument = "--help" → Means argument (.ok .help)
  | tree : Means "--tree" (.ok .tree)
  | color (mode : ColorMode) : Means ("--color=" ++ mode.name) (.ok (.color mode))
  | format (f : Format) : Means ("--format=" ++ f.name) (.ok (.format f))
  | document {argument : String} : isDocument argument = true →
      Means argument (.ok (.document (Source.ofName argument)))
  | fault {argument : String} {e : UsageError} : isDocument argument = false →
      ¬ IsOption argument → Describes argument e → Means argument (.error e)

theorem means_color (value : String) :
    Means ("--color=" ++ value) (Request.ofArgument ("--color=" ++ value)) := by
  rw [Request.ofArgument_color]
  cases h : ColorMode.ofName? value with
  | some mode =>
    rw [ColorMode.ofName?_eq_some_iff.1 h]
    exact .color mode
  | none =>
    have hdoc : isDocument ("--color=" ++ value) = false :=
      isDocument_of_dashes (by simp; rfl)
    refine .fault hdoc (by simp [isOption_color_iff, h]) ?_
    exact { document := by simp [hdoc]
            color := fun value' h' => by rw [String.append_right_inj _ |>.1 h']
            format := fun value' h' => absurd h' (color_ne_format value value')
            other := fun _ hcolor => absurd rfl (hcolor value) }

theorem means_format (value : String) :
    Means ("--format=" ++ value) (Request.ofArgument ("--format=" ++ value)) := by
  rw [Request.ofArgument_format]
  cases h : Format.ofName? value with
  | some f =>
    rw [Format.ofName?_eq_some_iff.1 h]
    exact .format f
  | none =>
    have hdoc : isDocument ("--format=" ++ value) = false :=
      isDocument_of_dashes (by simp; rfl)
    refine .fault hdoc (by simp [isOption_format_iff, h]) ?_
    exact { document := by simp [hdoc]
            color := fun value' h' => absurd h'.symm (color_ne_format value' value)
            format := fun value' h' => by rw [String.append_right_inj _ |>.1 h']
            other := fun _ _ hformat => absurd rfl (hformat value) }

theorem means_ofArgument (argument : String) : Means argument (Request.ofArgument argument) := by
  by_cases hcolor : ∃ value, argument = "--color=" ++ value
  · obtain ⟨value, rfl⟩ := hcolor
    exact means_color value
  by_cases hformat : ∃ value, argument = "--format=" ++ value
  · obtain ⟨value, rfl⟩ := hformat
    exact means_format value
  push Not at hcolor hformat
  rw [Request.ofArgument_of_other hcolor hformat]
  split_ifs with hhelp htree hdoc
  · exact .help hhelp
  · exact htree ▸ .tree
  · exact .document hdoc
  · rw [Bool.not_eq_true] at hdoc
    refine .fault hdoc ?_ ?_
    · rintro (h | ⟨mode, h⟩ | ⟨f, h⟩)
      · simp_all
      · exact hcolor _ h
      · exact hformat _ h
    · exact { document := by simp [hdoc]
              color := fun value h => absurd h (hcolor value)
              format := fun value h => absurd h (hformat value)
              other := fun _ _ _ => rfl }

theorem isDocument_of_isOption {argument : String} (h : IsOption argument) :
    isDocument argument = false := by
  rcases h with h | ⟨mode, rfl⟩ | ⟨f, rfl⟩
  · revert h argument
    decide
  · cases mode <;> decide
  · cases f <;> decide

theorem starts_iff {beginning argument : String} :
    starts beginning argument = true ↔ ∃ value, argument = beginning ++ value := by
  rw [starts, List.isPrefixOf_iff_prefix]
  refine ⟨fun ⟨rest, h⟩ => ⟨.ofList rest, ?_⟩, fun ⟨value, h⟩ => ⟨value.toList, ?_⟩⟩
  · rw [← String.toList_inj, ← h, String.toList_append, String.toList_ofList]
  · rw [h, String.toList_append]

/-- A document starts as no option does. -/
theorem starts_of_isDocument (beginning : String) {argument : String} {cs : List Char}
    (hbeginning : beginning.toList = '-' :: '-' :: cs) (h : isDocument argument = true) :
    starts beginning argument = false := by
  rw [← Bool.not_eq_true, starts_iff]
  rintro ⟨value, rfl⟩
  rw [isDocument_of_dashes (by rw [String.toList_append, hbeginning]; rfl)] at h
  cases h

theorem describes_document {argument : String} (h : isDocument argument = true) :
    Describes argument (.extraArgument argument) where
  document _ := rfl
  color value hvalue := by
    have hstarts := starts_of_isDocument "--color=" rfl h
    rw [starts_iff.2 ⟨value, hvalue⟩] at hstarts
    cases hstarts
  format value hvalue := by
    have hstarts := starts_of_isDocument "--format=" rfl h
    rw [starts_iff.2 ⟨value, hvalue⟩] at hstarts
    cases hstarts
  other hdoc := by simp [h] at hdoc

theorem Describes.unique {argument : String} {e e' : UsageError} (h : Describes argument e)
    (h' : Describes argument e') : e = e' := by
  by_cases hcolor : ∃ value, argument = "--color=" ++ value
  · obtain ⟨value, hvalue⟩ := hcolor
    rw [h.color value hvalue, h'.color value hvalue]
  by_cases hformat : ∃ value, argument = "--format=" ++ value
  · obtain ⟨value, hvalue⟩ := hformat
    rw [h.format value hvalue, h'.format value hvalue]
  push Not at hcolor hformat
  cases hdoc : isDocument argument with
  | true => rw [h.document hdoc, h'.document hdoc]
  | false => rw [h.other hdoc hcolor hformat, h'.other hdoc hcolor hformat]

/-! ## Lists of arguments -/

theorem startingWith_concat (beginning : String) (front : List String) (argument : String) :
    startingWith beginning (front ++ [argument]) =
      if starts beginning argument then startingWith beginning front ++ [argument]
      else startingWith beginning front := by
  simp only [startingWith, List.filter_append, List.filter_cons, List.filter_nil]
  split_ifs <;> simp

theorem documents_concat (front : List String) (argument : String) :
    documents (front ++ [argument]) =
      if isDocument argument then documents front ++ [argument] else documents front := by
  simp only [documents, List.filter_append, List.filter_cons, List.filter_nil]
  split_ifs <;> simp

theorem Allowed.nil : Allowed [] := ⟨nofun, Nat.zero_le 1⟩

theorem allowed_concat_iff {front : List String} {argument : String} :
    Allowed (front ++ [argument]) ↔ Allowed front ∧
      if isDocument argument then documents front = [] else IsOption argument := by
  refine ⟨fun h => ?_, fun ⟨h, hargument⟩ => ?_⟩
  · obtain ⟨hoptions, hlength⟩ := h
    rw [documents_concat] at hlength
    split_ifs at hlength ⊢ with hdoc
    · have hnil : documents front = [] := by simpa using hlength
      exact ⟨⟨fun a ha => hoptions a (List.mem_append_left _ ha), by simp [hnil]⟩, hnil⟩
    · exact ⟨⟨fun a ha => hoptions a (List.mem_append_left _ ha), hlength⟩,
        hoptions argument (by simp) (Bool.not_eq_true _ ▸ hdoc)⟩
  · refine ⟨fun a ha hdoc => ?_, ?_⟩
    · rcases List.mem_append.1 ha with ha | ha
      · exact h.isOption a ha hdoc
      · obtain rfl : a = argument := by simpa using ha
        simpa [hdoc] using hargument
    · rw [documents_concat]
      split_ifs at hargument ⊢
      · simp [hargument]
      · exact h.length_documents

section LastValue

variable {α : Type} {beginning : String} {name : α → String} {usual v v' : α}
  {arguments arguments' : List String}

theorem LastValue.concat {argument : String} (h : LastValue beginning name usual arguments v)
    (hv : if starts beginning argument then argument = beginning ++ name v' else v' = v) :
    LastValue beginning name usual (arguments ++ [argument]) v' := by
  rw [LastValue, startingWith_concat]
  split_ifs at hv ⊢
  · rw [List.getLast?_concat]
    exact hv
  · rw [hv]
    exact h

theorem LastValue.congr (h : LastValue beginning name usual arguments v)
    (heq : startingWith beginning arguments' = startingWith beginning arguments) :
    LastValue beginning name usual arguments' v := by
  rw [LastValue, heq]
  exact h

theorem LastValue.unique (hname : Function.Injective name)
    (h : LastValue beginning name usual arguments v)
    (h' : LastValue beginning name usual arguments v') : v = v' := by
  unfold LastValue at h h'
  cases hlast : (startingWith beginning arguments).getLast? with
  | none =>
    rw [hlast] at h h'
    exact h.trans h'.symm
  | some last =>
    rw [hlast] at h h'
    exact hname ((String.append_right_inj _).1 (h.symm.trans h'))

end LastValue

/-- What one more argument changes. -/
theorem Sets.concat {front : List String} {argument : String} {o o' : Options} (h : Sets front o)
    (color : if starts "--color=" argument then argument = "--color=" ++ o'.color.name
      else o'.color = o.color)
    (format : if starts "--format=" argument then argument = "--format=" ++ o'.format.name
      else o'.format = o.format)
    (tree : o'.tree = true ↔ o.tree = true ∨ argument = "--tree")
    (help : o'.help = true ↔ o.help = true ∨ argument = "-h" ∨ argument = "--help")
    (source : if isDocument argument then documents front = [] ∧ o'.source = Source.ofName argument
      else o'.source = o.source) : Sets (front ++ [argument]) o' where
  color := h.color.concat color
  format := h.format.concat format
  tree := by
    rw [tree, h.tree, List.mem_append, List.mem_singleton, eq_comm (a := argument)]
  help := by
    rw [help, h.help]
    simp only [AsksForHelp, List.mem_append, List.mem_singleton, eq_comm (a := argument),
      or_or_or_comm]
  source := by
    rw [documents_concat]
    split_ifs at source ⊢
    · rw [source.1, source.2]
      rfl
    · rw [source]
      exact h.source

end Arguments

namespace Options

variable {front : List String} {o : Options} {named : Bool}

/-- The arguments that were read so far are allowed, `o` is what they ask for, and `named` tells
whether there is a document among them. -/
structure Reached (front : List String) (o : Options) (named : Bool) : Prop where
  allowed : Allowed front
  sets : Sets front o
  named_iff : named = true ↔ documents front ≠ []

theorem Reached.nil : Reached [] {} false where
  allowed := .nil
  sets := { color := rfl, format := rfl, tree := by simp, help := by simp [AsksForHelp],
            source := rfl }
  named_iff := by simp [documents]

/-- An option adds to what was asked for. -/
theorem Reached.concat_option (h : Reached front o named) {argument : String} {o' : Options}
    (hoption : IsOption argument) (hsets : Sets (front ++ [argument]) o') :
    Reached (front ++ [argument]) o' named where
  allowed := by simp [allowed_concat_iff, isDocument_of_isOption hoption, h.allowed, hoption]
  sets := hsets
  named_iff := by simp [documents_concat, isDocument_of_isOption hoption, h.named_iff]

/-- One more argument adds to what was asked for, or it is not allowed and is reported. -/
theorem Reached.step (h : Reached front o named) (argument : String) (rest : List String) :
    (∃ o' named', Reached (front ++ [argument]) o' named' ∧
      o.readFrom named (argument :: rest) = o'.readFrom named' rest) ∨
    ∃ e, ¬ Allowed (front ++ [argument]) ∧ Describes argument e ∧
      o.readFrom named (argument :: rest) = .error e := by
  have hmeans := means_ofArgument argument
  rw [readFrom]
  generalize Request.ofArgument argument = outcome at hmeans
  cases hmeans with
  | help ha =>
    have hviews : starts "--color=" argument = false ∧ starts "--format=" argument = false ∧
        isDocument argument = false ∧ argument ≠ "--tree" := by
      rcases ha with rfl | rfl <;> decide
    obtain ⟨hcolor, hformat, hdoc, htree⟩ := hviews
    refine .inl ⟨{ o with help := true }, named, h.concat_option ?_ ?_, rfl⟩
    · rcases ha with rfl | rfl <;> exact .inl (by decide)
    · exact h.sets.concat (by simp [hcolor]) (by simp [hformat]) (by simp [htree]) (by simp [ha])
        (by simp [hdoc])
  | tree =>
    refine .inl ⟨{ o with tree := true }, named, h.concat_option (.inl (by decide)) ?_, rfl⟩
    exact h.sets.concat (by simp [starts]) (by simp [starts]) (by simp) (by simp)
      (by simp [isDocument])
  | color mode =>
    refine .inl ⟨{ o with color := mode }, named,
      h.concat_option (.inr (.inl ⟨mode, rfl⟩)) ?_, rfl⟩
    cases mode <;>
      exact h.sets.concat (by simp [starts]) (by simp [starts, ColorMode.name])
        (by simp [ColorMode.name]) (by simp [ColorMode.name]) (by simp [isDocument, ColorMode.name])
  | format f =>
    refine .inl ⟨{ o with format := f }, named,
      h.concat_option (.inr (.inr ⟨f, rfl⟩)) ?_, rfl⟩
    cases f <;>
      exact h.sets.concat (by simp [starts, Format.name]) (by simp [starts])
        (by simp [Format.name]) (by simp [Format.name]) (by simp [isDocument, Format.name])
  | document hdoc =>
    -- a document is none of the options that are looked for behind it
    have hne {a : String} (ha : isDocument a = false) : argument ≠ a := by
      rintro rfl
      simp [hdoc] at ha
    dsimp only
    split_ifs with hnamed
    · refine .inr ⟨_, ?_, describes_document hdoc, rfl⟩
      simp [allowed_concat_iff, hdoc, h.named_iff.1 hnamed]
    · have hnil : documents front = [] := by simpa [h.named_iff] using hnamed
      refine .inl ⟨_, true, ⟨?_, ?_, ?_⟩, rfl⟩
      · simp [allowed_concat_iff, hdoc, h.allowed, hnil]
      · refine h.sets.concat ?_ ?_ ?_ ?_ ?_
        · simp [starts_of_isDocument "--color=" rfl hdoc]
        · simp [starts_of_isDocument "--format=" rfl hdoc]
        · simp [hne (a := "--tree") (by decide)]
        · simp [hne (a := "-h") (by decide), hne (a := "--help") (by decide)]
        · simp [hdoc, hnil]
      · simp [documents_concat, hdoc]
  | @fault _ e hdoc hoption he =>
    refine .inr ⟨e, ?_, he, rfl⟩
    simp [allowed_concat_iff, hdoc, hoption]

/-- What reading comes to, behind arguments that were read. -/
theorem Reached.run (h : Reached front o named) (rest : List String) :
    (∃ options, o.readFrom named rest = .ok options ∧ Allowed (front ++ rest) ∧
      Sets (front ++ rest) options) ∨
    ∃ e, o.readFrom named rest = .error e ∧ FirstFault (front ++ rest) e := by
  induction rest generalizing front o named with
  | nil =>
    rw [List.append_nil]
    exact .inl ⟨o, rfl, h.allowed, h.sets⟩
  | cons argument rest ih =>
    rcases h.step argument rest with ⟨o', named', hreached, hread⟩ | ⟨e, hnot, he, hread⟩
    · rw [hread, List.append_cons]
      exact ih hreached
    · exact .inr ⟨e, hread, front, argument, rest, rfl, h.allowed, hnot, he⟩

end Options

namespace Arguments

/-! ## What is asked for, and what is reported -/

theorem Allowed.of_append {front rest : List String} (h : Allowed (front ++ rest)) :
    Allowed front where
  isOption a ha := h.isOption a (List.mem_append_left _ ha)
  length_documents := by
    have hlength := h.length_documents
    rw [documents, List.filter_append, List.length_append] at hlength
    exact Nat.le_trans (Nat.le_add_right _ _) hlength

/-- Arguments go on with the one that is reported. -/
theorem not_allowed_of_append {front rest : List String} {argument : String}
    (h : ¬ Allowed (front ++ [argument])) : ¬ Allowed (front ++ argument :: rest) := by
  rw [List.append_cons]
  exact fun hallowed => h hallowed.of_append

/-- Arguments that are allowed end in front of one that is not. -/
theorem eq_nil_of_allowed {front mid rest rest' : List String} {argument argument' : String}
    (hnot : ¬ Allowed (front ++ [argument])) (hallowed : Allowed (front ++ mid))
    (h : argument :: rest = mid ++ argument' :: rest') : mid = [] := by
  cases mid with
  | nil => rfl
  | cons a mid =>
    obtain ⟨rfl, -⟩ := List.cons.inj h
    exact absurd hallowed (not_allowed_of_append hnot)

namespace FirstFault

variable {arguments : List String} {e e' : UsageError}

theorem not_allowed (h : FirstFault arguments e) : ¬ Allowed arguments := by
  obtain ⟨front, argument, rest, rfl, -, hnot, -⟩ := h
  exact not_allowed_of_append hnot

/-- There is one first fault at most, since no fault is in front of it. -/
theorem unique (h : FirstFault arguments e) (h' : FirstFault arguments e') : e = e' := by
  obtain ⟨front, argument, rest, rfl, hfront, hnot, he⟩ := h
  obtain ⟨front', argument', rest', heq, hfront', hnot', he'⟩ := h'
  rcases List.append_eq_append_iff.1 heq with ⟨mid, rfl, hmid⟩ | ⟨mid, rfl, hmid⟩
  · obtain rfl := eq_nil_of_allowed hnot hfront' hmid
    obtain ⟨rfl, -⟩ := List.cons.inj hmid
    exact he.unique he'
  · obtain rfl := eq_nil_of_allowed hnot' hfront hmid
    obtain ⟨rfl, -⟩ := List.cons.inj hmid
    exact he.unique he'

end FirstFault

/-- Arguments ask for one thing only. -/
theorem Sets.unique {arguments : List String} {o o' : Options} (h : Sets arguments o)
    (h' : Sets arguments o') : o = o' := by
  have hcolor : o.color = o'.color := h.color.unique ColorMode.name_injective h'.color
  have hformat : o.format = o'.format := h.format.unique Format.name_injective h'.format
  have htree : o.tree = o'.tree := Bool.eq_iff_iff.2 (h.tree.trans h'.tree.symm)
  have hhelp : o.help = o'.help := Bool.eq_iff_iff.2 (h.help.trans h'.help.symm)
  have hsource : o.source = o'.source := h.source.trans h'.source.symm
  cases o
  cases o'
  simp_all

/-! ## Other orders -/

section Perm

variable {arguments arguments' : List String}

theorem Allowed.perm (h : Allowed arguments) (hperm : arguments'.Perm arguments) :
    Allowed arguments' where
  isOption a ha := h.isOption a (hperm.mem_iff.1 ha)
  length_documents := by
    rw [documents, (hperm.filter _).length_eq]
    exact h.length_documents

/-- A document stands for itself, whatever is around it. -/
theorem Allowed.documents_eq (h : Allowed arguments) (hperm : arguments'.Perm arguments) :
    documents arguments' = documents arguments := by
  have hdocuments : (documents arguments').Perm (documents arguments) := hperm.filter _
  have hlength := h.length_documents
  match hall : documents arguments with
  | [] => rwa [hall, List.perm_nil] at hdocuments
  | [a] => rwa [hall, List.perm_singleton] at hdocuments
  | a :: b :: rest => simp [hall] at hlength

theorem Sets.perm {o : Options} (h : Sets arguments o) (hallowed : Allowed arguments)
    (hperm : arguments'.Perm arguments)
    (hcolor : startingWith "--color=" arguments' = startingWith "--color=" arguments)
    (hformat : startingWith "--format=" arguments' = startingWith "--format=" arguments) :
    Sets arguments' o where
  color := h.color.congr hcolor
  format := h.format.congr hformat
  tree := by rw [h.tree, hperm.mem_iff]
  help := by rw [h.help, AsksForHelp, AsksForHelp, hperm.mem_iff, hperm.mem_iff]
  source := by rw [h.source, hallowed.documents_eq hperm]

end Perm

end Arguments

namespace Options

variable {arguments : List String}

theorem ofArguments_cases (arguments : List String) :
    (∃ options, ofArguments arguments = .ok options ∧ Allowed arguments ∧
      Sets arguments options) ∨
    ∃ e, ofArguments arguments = .error e ∧ FirstFault arguments e := Reached.nil.run arguments

theorem ofArguments_eq_ok_iff {options : Options} :
    ofArguments arguments = .ok options ↔ Allowed arguments ∧ Sets arguments options := by
  rcases ofArguments_cases arguments with ⟨o, ho, hallowed, hsets⟩ | ⟨e, he, hfault⟩
  · rw [ho, Except.ok.injEq]
    refine ⟨?_, fun h => hsets.unique h.2⟩
    rintro rfl
    exact ⟨hallowed, hsets⟩
  · rw [he]
    exact ⟨nofun, fun h => absurd h.1 hfault.not_allowed⟩

theorem ofArguments_eq_error_iff {e : UsageError} :
    ofArguments arguments = .error e ↔ FirstFault arguments e := by
  rcases ofArguments_cases arguments with ⟨o, ho, hallowed, -⟩ | ⟨e', he, hfault⟩
  · rw [ho]
    exact ⟨nofun, fun h => absurd hallowed h.not_allowed⟩
  · rw [he, Except.error.injEq]
    refine ⟨?_, hfault.unique⟩
    rintro rfl
    exact hfault

theorem exists_ofArguments_iff : (∃ options, ofArguments arguments = .ok options) ↔
    Allowed arguments := by
  refine ⟨fun ⟨options, h⟩ => (ofArguments_eq_ok_iff.1 h).1, fun h => ?_⟩
  rcases ofArguments_cases arguments with ⟨o, ho, -⟩ | ⟨e, -, hfault⟩
  · exact ⟨o, ho⟩
  · exact absurd h hfault.not_allowed

/-- The arguments ask for help if one of them does. -/
theorem help_of_ofArguments {options : Options} (h : ofArguments arguments = .ok options) :
    options.help = true ↔ AsksForHelp arguments := (ofArguments_eq_ok_iff.1 h).2.help

/-- **Arguments in order.** The arguments are read exactly if they are allowed, and then the options
are what they ask for. Otherwise the error is about the first of them that is not allowed behind
those in front of it. Arguments that are allowed may be put in another order as long as the colors
follow each other as before, and the formats too. -/
theorem ofArguments_lastWins (arguments : List String) :
    ((∃ options, ofArguments arguments = .ok options) ↔ Allowed arguments) ∧
      (∀ options, ofArguments arguments = .ok options ↔
        Allowed arguments ∧ Sets arguments options) ∧
      (∀ e, ofArguments arguments = .error e ↔ FirstFault arguments e) ∧
      ∀ arguments', Allowed arguments → arguments'.Perm arguments →
        startingWith "--color=" arguments' = startingWith "--color=" arguments →
        startingWith "--format=" arguments' = startingWith "--format=" arguments →
          ofArguments arguments' = ofArguments arguments := by
  refine ⟨exists_ofArguments_iff, fun options => ofArguments_eq_ok_iff,
    fun e => ofArguments_eq_error_iff, fun arguments' h hperm hcolor hformat => ?_⟩
  obtain ⟨options, hoptions⟩ := exists_ofArguments_iff.2 h
  have hsets := (ofArguments_eq_ok_iff.1 hoptions).2
  rw [hoptions]
  exact ofArguments_eq_ok_iff.2 ⟨h.perm hperm, hsets.perm h hperm hcolor hformat⟩

/-- A wish for help does not end the reading: the color without a value is reported, and not the
second document behind it. -/
example : ofArguments ["a", "--help", "--color=", "b"] =
    .error (.invalidValue "--color" "" "auto, always or never") := by decide +kernel

end Options

end TagMarkup
