/-
Words of the command that draws (`build_parser`, `parse_point`). A word that joins a value to the long name of an option
says that the option has this value, whatever words stand around it; a name alone says that an option without a value is
chosen; and a word that starts with no dash is the sketch. So a command line of such words is read as the request that they
spell, in whatever order they stand: of an option that is given more than once the last value counts, and touches count
from left to right. Short names, starts of names, and values in words of their own are read too, but nothing is said of
them here.

Results:
- `classify_joined`, `classify_name`, `classify_plain`: what such words are.
- `eventsOf_settings`: what such words say, one after another.
- `Drafted.put`, `drafted_settings`: the draft that comes of one more word, and of all, by the values of each option.
- `read_settings`: the request that a whole command line is read as.
- `read_frame`: a request for a frame, from any command line that spells it.
-/
import Mathlib.Tactic
import SketchPanel.Proofs.RenderCalls

namespace SketchPanel.CommandLine

open Text Number

/-! ## What a word is -/

section Words

variable {κ : Type} {g : Grammar κ} {name value word : List Char} {choice : Choice κ}

theorem atEquals_joined (value : List Char) (hname : '=' ∉ name) : atEquals (name ++ '=' :: value) = (name, some value) := by
  have hbefore : ∀ c ∈ name, decide (c ≠ '=') = true := fun c hc => decide_eq_true fun heq => hname (heq ▸ hc)
  have hafter : (name ++ '=' :: value).dropWhile (· ≠ '=') = '=' :: value := by
    rw [List.dropWhile_append_of_pos hbefore]
    rfl
  have hfront : (name ++ '=' :: value).takeWhile (· ≠ '=') = name := by
    rw [List.takeWhile_append_of_pos hbefore]
    exact List.append_nil name
  simp only [atEquals, hafter, hfront]

/-- no option has an equals sign in its name -/
theorem lookup_joined (name value : List Char) (hg : ∀ entry ∈ g, '=' ∉ entry.1) : g.lookup (name ++ '=' :: value) = none := by
  refine List.lookup_eq_none_iff.2 fun entry hentry => bne_iff_ne.2 ?_
  intro hsame
  refine hg entry hentry ?_
  rw [← hsame]
  exact List.mem_append_right _ List.mem_cons_self

theorem isLong_iff : isLong name = true ↔ ∃ rest, name = '-' :: '-' :: rest := by
  rw [isLong, List.isPrefixOf_iff_prefix]
  exact ⟨fun ⟨rest, h⟩ => ⟨rest, h.symm⟩, fun ⟨rest, h⟩ => ⟨rest, h.symm⟩⟩

/-- a value joined to a long name -/
theorem classify_joined (value : List Char) (hg : ∀ entry ∈ g, '=' ∉ entry.1) (hlong : isLong name = true)
    (hequals : '=' ∉ name) (hname : g.lookup name = some choice) :
    classify g (name ++ '=' :: value) = some (.option choice false (some value)) := by
  have hparted := atEquals_joined value hequals
  have hwhole := lookup_joined name value hg
  obtain ⟨rest, rfl⟩ := isLong_iff.1 hlong
  simp only [List.cons_append] at hparted hwhole ⊢
  simp [classify, hparted, hwhole, hname, hlong]

/-- a long name alone -/
theorem classify_name (hlong : isLong name = true) (hname : g.lookup name = some choice) :
    classify g name = some (.option choice false none) := by
  obtain ⟨rest, rfl⟩ := isLong_iff.1 hlong
  simp [classify, hname, hlong]

/-- a word that starts with no dash -/
theorem classify_plain (h : word.head? ≠ some '-') : classify g word = some .plain := by
  unfold classify
  split
  · exact absurd rfl h
  · rfl

/-- a value joined to a name that no option has, nor begins with -/
theorem classify_stranger (hg : ∀ entry ∈ g, '=' ∉ entry.1) (hlong : isLong name = true) (hequals : '=' ∉ name)
    (hnone : ∀ entry ∈ g, name.isPrefixOf entry.1 = false) : ∃ what, classify g (name ++ '=' :: value) = some what := by
  have hparted := atEquals_joined value hequals
  have hwhole := lookup_joined name value hg
  have hname : g.lookup name = none := by
    refine List.lookup_eq_none_iff.2 fun entry hentry => bne_iff_ne.2 ?_
    rintro rfl
    have hself : entry.1.isPrefixOf entry.1 = true := List.isPrefixOf_iff_prefix.2 List.prefix_rfl
    rw [hnone entry hentry] at hself
    cases hself
  have hmeanings : meanings g (name ++ '=' :: value) = [] := by
    have hlong' : isLong (name ++ '=' :: value) = true := by
      obtain ⟨rest, rfl⟩ := isLong_iff.1 hlong
      rfl
    simp only [meanings, hlong', hparted, if_true]
    rw [List.map_eq_nil_iff, List.filter_eq_nil_iff]
    intro entry hentry
    simp [hnone entry hentry]
  obtain ⟨rest, rfl⟩ := isLong_iff.1 hlong
  simp only [List.cons_append] at hparted hwhole hmeanings ⊢
  simp [classify, hparted, hwhole, hname, hmeanings]

end Words

/-! ## What words say -/

section Events

variable {κ : Type} {g : Grammar κ} {word : String} {rest : List String}

theorem texts_classifyAll {texts : List String} {words : List (String × Word κ)} (h : classifyAll g texts = some words) :
    words.map (·.1) = texts := by
  induction texts generalizing words with
  | nil =>
    cases h
    rfl
  | cons text rest ih =>
    rw [classifyAll] at h
    split_ifs at h with hdivider
    · cases h
      simp [Function.comp_def]
    · cases hword : classify g text.toList with
      | none => simp [hword] at h
      | some what =>
        cases hrest : classifyAll g rest with
        | none => simp [hword, hrest] at h
        | some others =>
          simp only [hword, hrest] at h
          cases h
          rw [List.map_cons, ih hrest]

/-- a word that makes one thing of itself says that, and then the other words follow -/
theorem eventsOf_option {choice : Choice κ} {short : Bool} {attached : Option (List Char)} {said : Event κ}
    (hword : word ≠ divider) (hwhat : classify g word.toList = some (.option choice short attached))
    (hsaid : cluster g choice short attached = .whole [said]) :
    eventsOf g (word :: rest) = (eventsOf g rest).map (said :: ·) := by
  have hdivider : ¬ word = "--" := hword
  simp only [eventsOf, classifyAll, if_neg hdivider, hwhat]
  cases classifyAll g rest with
  | none => rfl
  | some others => simp [events, hsaid, Except.map]

/-- a plain word says itself, with the words after it -/
theorem eventsOf_plain (hword : word ≠ divider) (hwhat : classify g word.toList = some .plain) :
    eventsOf g (word :: rest) = (eventsOf g rest).map (.plain word rest :: ·) := by
  have hdivider : ¬ word = "--" := hword
  simp only [eventsOf, classifyAll, if_neg hdivider, hwhat]
  cases hrest : classifyAll g rest with
  | none => rfl
  | some others => simp [events, texts_classifyAll hrest, Except.map]

end Events

/-! ## Words after the command -/

/-- the long name of an option -/
def RequestOption.name : RequestOption → String
  | .width => "--width"
  | .height => "--height"
  | .output => "--output"
  | .screen => "--screen"
  | .touch => "--touch"
  | .debug => "--debug"
  | .format => "--format"
  | .help => "--help"

/-- what one word after the command gives: the sketch, a value for an option, or the debug mode -/
inductive Setting where
  | sketch (text : String)
  | valued (which : RequestOption) (value : String)
  | debug
  deriving DecidableEq

namespace Setting

/-- the word -/
def word : Setting → String
  | .sketch text => text
  | .valued which value => which.name ++ "=" ++ value
  | .debug => RequestOption.debug.name

/-- whether the word is read as what it gives: a sketch starts with no dash, a path and a screen are no divider, and any
other value can be read -/
def Readable : Setting → Prop
  | .sketch text => text.toList.head? ≠ some '-'
  | .valued .output value | .valued .screen value => value ≠ divider
  | .valued .touch value => ∃ point, readPoint value = .ok point
  | .valued .format value => value = "png" ∨ value = "svg"
  | .valued .width value | .valued .height value => ∃ n, wholeArgument? value.toList = some n
  | .valued .debug _ | .valued .help _ => False
  | .debug => True

/-- what the word says before others -/
def event (after : List String) : Setting → Event RequestOption
  | .sketch text => .plain text after
  | .valued which value => .chosen which (some value)
  | .debug => .chosen .debug none

/-- the draft with the word taken in -/
def put (d : Draft) : Setting → Except Refusal Draft
  | .sketch text => .ok (if d.sketch.isNone then { d with sketch := some text } else { d with strays := true })
  | .valued which value => d.take which (some value)
  | .debug => .ok { d with debug := true }

end Setting

/-- what words after the command say -/
def said : List Setting → List (Event RequestOption)
  | [] => []
  | s :: rest => s.event (rest.map Setting.word) :: said rest

theorem unequal_renderGrammar : ∀ entry ∈ renderGrammar, '=' ∉ entry.1 := by decide

theorem unequal_commonGrammar : ∀ entry ∈ commonGrammar, '=' ∉ entry.1 := by decide

theorem toList_valued (which : RequestOption) (value : String) :
    (Setting.valued which value).word.toList = which.name.toList ++ '=' :: value.toList := by
  simp [Setting.word]

theorem name_long (which : RequestOption) : isLong which.name.toList = true ∧ '=' ∉ which.name.toList := by
  cases which <;> decide

theorem ne_divider {text : String} (h : text.toList.head? ≠ some '-') : text ≠ divider := by
  rintro rfl
  exact h (by decide)

theorem valued_ne_divider (which : RequestOption) (value : String) : (Setting.valued which value).word ≠ divider := by
  intro h
  have hequals : '=' ∈ (Setting.valued which value).word.toList := by simp [toList_valued]
  rw [h] at hequals
  exact absurd hequals (by decide)

/-- a word that is read says what it gives -/
theorem eventsOf_setting {s : Setting} (hs : s.Readable) (rest : List String) :
    eventsOf renderGrammar (s.word :: rest) = (eventsOf renderGrammar rest).map (s.event rest :: ·) := by
  cases s with
  | sketch text => exact eventsOf_plain (ne_divider hs) (classify_plain hs)
  | debug =>
    have hname : renderGrammar.lookup RequestOption.debug.name.toList = some ⟨.debug, false⟩ := rfl
    exact eventsOf_option (by decide) (classify_name (name_long .debug).1 hname) rfl
  | valued which value =>
    have hname : renderGrammar.lookup which.name.toList = some ⟨which, true⟩ := by
      cases which with
      | debug | help => cases hs
      | _ => rfl
    have hwhat := classify_joined value.toList unequal_renderGrammar (name_long which).1 (name_long which).2 hname
    rw [← toList_valued] at hwhat
    refine eventsOf_option (valued_ne_divider which value) hwhat ?_
    simp [cluster, Setting.event]

/-- words that are read say what they give, one after another -/
theorem eventsOf_settings {settings : List Setting} (h : ∀ s ∈ settings, s.Readable) :
    eventsOf renderGrammar (settings.map Setting.word) = .ok (said settings) := by
  induction settings with
  | nil => rfl
  | cons s rest ih =>
    obtain ⟨hs, hrest⟩ := List.forall_mem_cons.1 h
    rw [List.map_cons, eventsOf_setting hs, ih hrest]
    rfl

/-- a plain word before anything but a divider names the sketch, or is astray -/
theorem read_plain (d : Draft) (text : String) (after : List String) {more : List (Event RequestOption)}
    (h : ∀ rest, more ≠ .divider :: rest) : d.read (.plain text after :: more) =
      (if d.sketch.isNone then { d with sketch := some text } else { d with strays := true } : Draft).read more := by
  rw [Draft.read]
  · split_ifs <;> rfl
  · exact fun rest hrest => h rest hrest

theorem said_ne_divider (settings : List Setting) (rest : List (Event RequestOption)) : said settings ≠ .divider :: rest := by
  intro h
  cases settings with
  | nil => cases h
  | cons s more => cases s <;> cases h

/-- what is said after the command is taken in word by word -/
theorem read_said (settings : List Setting) (d : Draft) : d.read (said settings) = settings.foldlM Setting.put d := by
  induction settings generalizing d with
  | nil => rfl
  | cons s rest ih =>
    rw [said, List.foldlM_cons]
    cases s with
    | sketch text =>
      show Draft.read d (.plain text (rest.map Setting.word) :: said rest) = _
      rw [read_plain d text _ (said_ne_divider rest)]
      exact ih _
    | valued which value =>
      show Draft.read d (.chosen which (some value) :: said rest) = _
      rw [Draft.read]
      exact bind_congr ih
    | debug =>
      show Draft.read d (.chosen .debug none :: said rest) = _
      rw [Draft.read]
      exact ih _

/-! ## The draft -/

/-- the sketches that are named -/
def sketches (settings : List Setting) : List String := settings.filterMap fun
  | .sketch text => some text
  | _ => none

/-- the values that an option is given, from left to right -/
def values (which : RequestOption) (settings : List Setting) : List String := settings.filterMap fun
  | .valued other value => if other = which then some value else none
  | _ => none

/-- the number that a size spells -/
def sizeOf? (value : String) : Option Json := (wholeArgument? value.toList).map .int

/-- whether a draft holds what words gave: the first sketch, of each option the last value, and all touches in turn -/
structure Drafted (settings : List Setting) (d : Draft) : Prop where
  sketch : d.sketch = (sketches settings).head?
  strays : d.strays = decide (1 < (sketches settings).length)
  output : d.output = (values .output settings).getLast?.map .str
  screen : d.screen = (values .screen settings).getLast?.map .str
  touches : d.touches = (values .touch settings).map fun value => (readPoint value).toOption
  debug : d.debug = decide (.debug ∈ settings)
  format : d.format = (values .format settings).getLast?.map .str
  width : d.width = (values .width settings).getLast?.bind sizeOf?
  height : d.height = (values .height settings).getLast?.bind sizeOf?

theorem readTouch_point {value : String} {point : Float × Float} (h : readPoint value = .ok point) :
    readTouch value = .ok (some point) := by
  have hdivider : value ≠ divider := by
    rintro rfl
    cases h
  rw [readTouch, if_neg hdivider, h]

theorem readSize_whole {value : String} {n : Int} (h : wholeArgument? value.toList = some n) :
    readSize value = .ok (.int n) := by
  have hdivider : value ≠ divider := by
    rintro rfl
    cases h
  rw [readSize, if_neg hdivider, h]

theorem kept_text {value : String} (h : value ≠ divider) : kept value = .str value := if_neg h

theorem readFormat_known {value : String} (h : value = "png" ∨ value = "svg") : readFormat value = .ok (.str value) := by
  rcases h with rfl | rfl <;> rfl

section Taken

variable {settings : List Setting} {value : String}

@[simp] theorem sketches_snoc (settings : List Setting) (s : Setting) :
    sketches (settings ++ [s]) = sketches settings ++ sketches [s] := List.filterMap_append

@[simp] theorem sketches_sketch : sketches [.sketch value] = [value] := rfl

@[simp] theorem sketches_valued {which : RequestOption} : sketches [.valued which value] = [] := rfl

@[simp] theorem sketches_debug : sketches [.debug] = [] := rfl

@[simp] theorem values_snoc (which : RequestOption) (settings : List Setting) (s : Setting) :
    values which (settings ++ [s]) = values which settings ++ values which [s] := List.filterMap_append

@[simp] theorem values_valued {which other : RequestOption} :
    values which [.valued other value] = if other = which then [value] else [] := by
  by_cases h : other = which <;> simp [values, h]

@[simp] theorem values_sketch {which : RequestOption} : values which [.sketch value] = [] := rfl

@[simp] theorem values_debug {which : RequestOption} : values which [.debug] = [] := rfl

theorem take_output (d : Draft) (h : value ≠ divider) :
    d.take .output (some value) = .ok { d with output := some (.str value) } := by
  simp [Draft.take, kept_text h, pure, Except.pure]

theorem take_screen (d : Draft) (h : value ≠ divider) :
    d.take .screen (some value) = .ok { d with screen := some (.str value) } := by
  simp [Draft.take, kept_text h, pure, Except.pure]

theorem take_touch (d : Draft) {point : Float × Float} (h : readPoint value = .ok point) :
    d.take .touch (some value) = .ok { d with touches := d.touches ++ [some point] } := by
  simp [Draft.take, readTouch_point h]

theorem take_format (d : Draft) (h : value = "png" ∨ value = "svg") :
    d.take .format (some value) = .ok { d with format := some (.str value) } := by
  simp [Draft.take, readFormat_known h]

theorem take_width (d : Draft) {n : Int} (h : wholeArgument? value.toList = some n) :
    d.take .width (some value) = .ok { d with width := some (.int n) } := by
  simp [Draft.take, readSize_whole h]

theorem take_height (d : Draft) {n : Int} (h : wholeArgument? value.toList = some n) :
    d.take .height (some value) = .ok { d with height := some (.int n) } := by
  simp [Draft.take, readSize_whole h]

/-- a word that is read is taken in: one field of the draft changes, and with it what the words gave for this field -/
theorem Drafted.put {d : Draft} (hd : Drafted settings d) {s : Setting} (hs : s.Readable) :
    ∃ d', s.put d = .ok d' ∧ Drafted (settings ++ [s]) d' := by
  obtain ⟨hsketch, hstrays, houtput, hscreen, htouches, hdebug, hformat, hwidth, hheight⟩ := hd
  cases s with
  | sketch text =>
    refine ⟨_, rfl, ?_⟩
    -- only the first sketch is kept; any other is astray
    cases hlist : sketches settings with
    | nil =>
      rw [hlist] at hsketch hstrays
      constructor <;> simp [*]
    | cons first others =>
      rw [hlist] at hsketch hstrays
      constructor <;> simp [*]
  | debug =>
    refine ⟨_, rfl, ?_⟩
    constructor <;> simp [*]
  | valued which value =>
    cases which with
    | debug | help => cases hs
    | output =>
      refine ⟨_, take_output d hs, ?_⟩
      constructor <;> simp [*]
    | screen =>
      refine ⟨_, take_screen d hs, ?_⟩
      constructor <;> simp [*]
    | touch =>
      obtain ⟨point, hpoint⟩ := hs
      refine ⟨_, take_touch d hpoint, ?_⟩
      constructor <;> simp [*, Except.toOption]
    | format =>
      refine ⟨_, take_format d hs, ?_⟩
      constructor <;> simp [*]
    | width =>
      obtain ⟨n, hn⟩ := hs
      refine ⟨_, take_width d hn, ?_⟩
      constructor <;> simp [*, sizeOf?]
    | height =>
      obtain ⟨n, hn⟩ := hs
      refine ⟨_, take_height d hn, ?_⟩
      constructor <;> simp [*, sizeOf?]

theorem drafted_settings (h : ∀ s ∈ settings, s.Readable) :
    ∃ d, settings.foldlM Setting.put {} = .ok d ∧ Drafted settings d := by
  induction settings using List.reverseRecOn with
  | nil => exact ⟨{}, rfl, by constructor <;> rfl⟩
  | append_singleton earlier s ih =>
    obtain ⟨hearlier, hs⟩ := List.forall_mem_append.1 h
    obtain ⟨d, hfold, hd⟩ := ih hearlier
    obtain ⟨d', hput, hd'⟩ := hd.put (hs s (List.mem_singleton_self s))
    refine ⟨d', ?_, hd'⟩
    simp [List.foldlM_append, hfold, hput, bind, Except.bind, pure, Except.pure]

end Taken

/-! ## Whole command lines -/

/-- the words before the command: how much is to be logged, and in which form -/
def flagWords (verbose logJson : Bool) : List String :=
  (if verbose then ["--verbose"] else []) ++ if logJson then ["--log-json"] else []

theorem classifyAll_of_forall {κ : Type} {g : Grammar κ} {texts : List String}
    (h : ∀ text ∈ texts, text ≠ divider ∧ ∃ what, classify g text.toList = some what) :
    ∃ words, classifyAll g texts = some words := by
  induction texts with
  | nil => exact ⟨[], rfl⟩
  | cons text rest ih =>
    obtain ⟨⟨hdivider, what, hwhat⟩, hrest⟩ := List.forall_mem_cons.1 h
    obtain ⟨words, hwords⟩ := ih hrest
    have hdivider : ¬ text = "--" := hdivider
    exact ⟨(text, what) :: words, by simp [classifyAll, hdivider, hwhat, hwords]⟩

/-- the words after the command are nothing that could stand before it -/
theorem classify_common {s : Setting} (hs : s.Readable) :
    s.word ≠ divider ∧ ∃ what, classify commonGrammar s.word.toList = some what := by
  cases s with
  | sketch text => exact ⟨ne_divider hs, _, classify_plain hs⟩
  | debug => exact ⟨by decide, _, rfl⟩
  | valued which value =>
    refine ⟨valued_ne_divider which value, ?_⟩
    rw [toList_valued]
    refine classify_stranger unequal_commonGrammar (name_long which).1 (name_long which).2 ?_
    cases which with
    | debug | help => cases hs
    | _ => decide

/-- what is said up to the command -/
theorem eventsOf_flags {texts : List String} (h : ∃ words, classifyAll commonGrammar texts = some words)
    (verbose logJson : Bool) : ∃ more, eventsOf commonGrammar (flagWords verbose logJson ++ "render" :: texts) =
      .ok ((if verbose then [.chosen .verbose none] else []) ++ (if logJson then [.chosen .logJson none] else []) ++
        .plain "render" texts :: more) := by
  obtain ⟨words, hwords⟩ := h
  have hcommand : eventsOf commonGrammar ("render" :: texts) =
      .ok (.plain "render" texts :: events commonGrammar words) := by
    rw [eventsOf_plain (by decide) (classify_plain (by decide)), eventsOf, hwords]
    rfl
  have hverbose (rest : List String) : eventsOf commonGrammar ("--verbose" :: rest) =
      (eventsOf commonGrammar rest).map (.chosen .verbose none :: ·) := by
    have hname : commonGrammar.lookup "--verbose".toList = some ⟨.verbose, false⟩ := rfl
    exact eventsOf_option (by decide) (classify_name (by decide) hname) rfl
  have hlogJson (rest : List String) : eventsOf commonGrammar ("--log-json" :: rest) =
      (eventsOf commonGrammar rest).map (.chosen .logJson none :: ·) := by
    have hname : commonGrammar.lookup "--log-json".toList = some ⟨.logJson, false⟩ := rfl
    exact eventsOf_option (by decide) (classify_name (by decide) hname) rfl
  refine ⟨events commonGrammar words, ?_⟩
  cases verbose <;> cases logJson <;> simp [flagWords, hverbose, hlogJson, hcommand, Except.map]

/-- what stands before the command is taken in, and then the command is asked -/
theorem read_flags {texts : List String} (h : ∃ words, classifyAll commonGrammar texts = some words) {request : Request}
    (hrequest : readRequest "render" texts = .ok (request, false)) (verbose logJson : Bool) :
    read (flagWords verbose logJson ++ "render" :: texts) = .ok ⟨{ verbose, logJson }, request⟩ := by
  obtain ⟨more, hevents⟩ := eventsOf_flags h verbose logJson
  have hcommand (c : Common) : readCommon c false (.plain "render" texts :: more) = .ok ⟨c, request⟩ := by
    simp [readCommon, hrequest, bind, Except.bind, pure, Except.pure]
  rw [read, hevents]
  cases verbose <;> cases logJson <;> exact hcommand _

/-- the request that a draft comes to, with its sketch and its path -/
def Draft.asked (d : Draft) (sketch path : String) : RenderRequest where
  sketch := sketch
  output := .str path
  screen := d.screen
  touches := d.touches
  debug := d.debug
  format := d.format
  width := d.width
  height := d.height

/-- what the command is asked by readable words, one of them the sketch and one a path -/
theorem readRequest_settings {settings : List Setting} (h : ∀ s ∈ settings, s.Readable) {sketch path : String}
    (hsketch : sketches settings = [sketch]) (hpath : (values .output settings).getLast? = some path) :
    ∃ d, Drafted settings d ∧
      readRequest "render" (settings.map Setting.word) = .ok (.render (d.asked sketch path), false) := by
  obtain ⟨d, hfold, hd⟩ := drafted_settings h
  have hread : Draft.read {} (said settings) = .ok d := (read_said settings {}).trans hfold
  have hnamed : d.sketch = some sketch := by rw [hd.sketch, hsketch, List.head?_cons]
  have hout : d.output = some (.str path) := by rw [hd.output, hpath, Option.map_some]
  have hstrays : d.strays = false := by simp [hd.strays, hsketch]
  refine ⟨d, hd, ?_⟩
  simp [readRequest, eventsOf_settings h, hread, hnamed, hout, hstrays, needed, Draft.asked, bind, Except.bind, pure,
    Except.pure]

/-- **Words and requests.** A command line of readable words, one of them the sketch and one a path, asks for a frame: of
every other option the last value counts, and all touches count, from left to right. -/
theorem read_settings {settings : List Setting} (h : ∀ s ∈ settings, s.Readable) {sketch path : String}
    (hsketch : sketches settings = [sketch]) (hpath : (values .output settings).getLast? = some path)
    (verbose logJson : Bool) :
    read (flagWords verbose logJson ++ "render" :: settings.map Setting.word) = .ok ⟨{ verbose, logJson }, .render {
      sketch
      output := .str path
      screen := (values .screen settings).getLast?.map .str
      touches := (values .touch settings).map fun value => (readPoint value).toOption
      debug := decide (.debug ∈ settings)
      format := (values .format settings).getLast?.map .str
      width := (values .width settings).getLast?.bind sizeOf?
      height := (values .height settings).getLast?.bind sizeOf? }⟩ := by
  have hwords : ∀ text ∈ settings.map Setting.word,
      text ≠ divider ∧ ∃ what, classify commonGrammar text.toList = some what :=
    List.forall_mem_map.2 fun s hs => classify_common (h s hs)
  obtain ⟨d, hd, hrequest⟩ := readRequest_settings h hsketch hpath
  rw [read_flags (classifyAll_of_forall hwords) hrequest, Draft.asked, hd.screen, hd.touches, hd.debug, hd.format,
    hd.width, hd.height]

/-! ## Requests for frames -/

/-- whether words after the command spell a request for a frame: one sketch, a path, what else is asked for, and no size -/
structure Spells (settings : List Setting) (r : FrameRequest) : Prop where
  readable : ∀ s ∈ settings, s.Readable
  sketch : sketches settings = [r.sketch]
  out : (values .output settings).getLast? = some r.out
  screen : (values .screen settings).getLast? = r.screen
  points : (values .touch settings).map readPoint = r.points.map .ok
  debug : .debug ∈ settings ↔ r.debug = true
  format : (values .format settings).getLast? = r.format
  width : values .width settings = []
  height : values .height settings = []

/-- **Words of a frame.** A command line whose words spell a request for a frame, in whatever order, is read as that
request. -/
theorem read_frame {settings : List Setting} {r : FrameRequest} (h : Spells settings r) (verbose logJson : Bool) :
    read (flagWords verbose logJson ++ "render" :: settings.map Setting.word) =
      .ok ⟨{ verbose, logJson }, .render r.request⟩ := by
  have htouches : (values .touch settings).map (fun value => (readPoint value).toOption) = r.points.map some := calc
    _ = ((values .touch settings).map readPoint).map Except.toOption := List.map_map.symm
    _ = (r.points.map .ok).map Except.toOption := by rw [h.points]
    _ = r.points.map some := List.map_map
  have hdebug : decide (.debug ∈ settings) = r.debug := by
    rw [Bool.eq_iff_iff, decide_eq_true_iff, h.debug]
  rw [read_settings h.readable h.sketch h.out, h.screen, h.format, htouches, hdebug, h.width, h.height]
  rfl

/-- the last path counts, wherever the sketch stands -/
example : read ["--verbose", "render", "--output=a.svg", "menu.ino", "--debug", "--output=b.svg"] =
    .ok ⟨{ verbose := true }, .render (FrameRequest.request { sketch := "menu.ino", out := "b.svg", debug := true })⟩ :=
  rfl

end SketchPanel.CommandLine
