/-
Settings saved and loaded again. A file written along a spelled path is found along it, its text goes through the
evening of line ends unchanged, and what is read off it lies over the same defaults as before, where it is absorbed. So
saved settings are loaded as they were, if they are read back at all.

Results:
- `Folder.keeping`: the folder in memory keeps what is written.
- `document_read`: settings without floating numbers are read back.
- `load_written`: settings written to a file are loaded over those below.
- `layers_absorbed`: laying over is biased, keeps keys, is absorbed, and so saved settings are loaded as they were.
Witness:
- `layers_of_panel`: objects over plain values and the other way round, and settings of a file that replace a default.
-/
import Mathlib.Data.List.Basic
import SketchPanel.Files.Folder
import SketchPanel.Proofs.Scanning
import SketchPanel.Proofs.SettingsLayers
import SketchPanel.Proofs.WrittenValues
import SketchPanel.Settings.Store

namespace SketchPanel

/-! ## Files that keep what is written -/

namespace Files

open SketchPanel.Text

namespace Folder

variable {f : Folder} {place here : Place} {content : Content} {path : String}

/-- what was a folder stays one when a file is put somewhere -/
theorem isFolder_put (h : f.isFolder here = true) : (f.put place content).isFolder here = true := by
  simp only [isFolder, Bool.or_eq_true] at h ⊢
  rcases h with hmade | honTheWay
  · exact .inl hmade
  · refine .inr (List.any_eq_true.2 ?_)
    obtain ⟨⟨other, old⟩, hother, hbefore⟩ := List.any_eq_true.1 honTheWay
    by_cases hsame : other = place
    · subst hsame
      exact ⟨(other, content), by simp [put], hbefore⟩
    · exact ⟨(other, old), by simp [put, hother, hsame], hbefore⟩

theorem walk_put {steps : List (List Char)} {there : Place} (h : f.walk here steps = .ok there) :
    (f.put place content).walk here steps = .ok there := by
  induction steps generalizing here with
  | nil => exact h
  | cons step rest ih =>
    have hfolder : f.isFolder here = true := by
      by_contra hnone
      rw [walk, if_pos (by simpa using hnone)] at h
      cases h
    rw [walk, if_neg (by simp [hfolder])] at h
    rw [walk, if_neg (by simp [isFolder_put hfolder])]
    by_cases hstay : step = ['.']
    · rw [if_pos hstay] at h ⊢
      exact ih h
    · rw [if_neg hstay] at h ⊢
      by_cases hback : step = ['.', '.']
      · rw [if_pos hback] at h ⊢
        exact ih h
      · rw [if_neg hback] at h ⊢
        by_cases hlong : maxName < (String.ofList step).utf8ByteSize
        · rw [if_pos hlong] at h
          cases h
        · rw [if_neg hlong] at h ⊢
          exact ih h

/-- where a path leads to, if it leads anywhere -/
theorem locate_eq_ok_iff : f.locate path = .ok place ↔ path.isEmpty = false ∧
    path.toList.contains (Char.ofNat 0) = false ∧ path.utf8ByteSize ≤ maxPath ∧
    f.walk [] ((pieces '/' path.toList).filter (· ≠ [])) = .ok place ∧
    (path.endsWith "/" && (f.content? place).isSome) = false := by
  unfold locate
  simp only [bind, Except.bind, pure, Except.pure, throw, throwThe, MonadExceptOf.throw]
  repeat' split
  all_goals simp_all
  all_goals
    rintro rfl
    simp_all [Option.isSome_iff_ne_none]

theorem room_eq_ok_iff : f.room path = .ok place ↔ f.locate path = .ok place ∧ f.isFolder place = false := by
  simp only [room, bind, Except.bind, pure, Except.pure, throw, throwThe, MonadExceptOf.throw]
  repeat' split
  all_goals simp_all
  all_goals
    rintro rfl
    assumption

/-- a file that was put where a path leads to is found by that path, unless the path ends as folders do -/
theorem locate_put (hpath : path.endsWith "/" = false) (h : f.room path = .ok place) :
    (f.put place content).locate path = .ok place := by
  obtain ⟨hlocate, -⟩ := room_eq_ok_iff.1 h
  obtain ⟨hempty, hnought, hlong, hwalk, -⟩ := locate_eq_ok_iff.1 hlocate
  exact locate_eq_ok_iff.2 ⟨hempty, hnought, hlong, walk_put hwalk, by simp [hpath]⟩

end Folder

/-! ## Spelled paths -/

theorem Path.root_read (text : String) :
    (Path.read text).root = [] ∨ (Path.read text).root = ['/'] ∨ (Path.read text).root = ['/', '/'] := by
  simp only [Path.read, Path.rootOf]
  split <;> simp

/-- a step has something in it, and no slash -/
theorem Path.step_read {text : String} {step : List Char} (h : step ∈ (Path.read text).steps) :
    step ≠ [] ∧ '/' ∉ step := by
  obtain ⟨hpiece, hmoves⟩ := List.mem_filter.1 h
  refine ⟨?_, not_mem_pieces hpiece⟩
  rintro rfl
  simp [Path.moves] at hmoves

/-- joined parts end as the last of them does -/
theorem getLast?_join {mark : Char} {parts : List (List Char)} (hne : parts ≠ [])
    (h : ∀ part ∈ parts, part ≠ [] ∧ mark ∉ part) : ∃ c, c ≠ mark ∧ (join [mark] parts).getLast? = some c := by
  induction parts with
  | nil => exact absurd rfl hne
  | cons part parts ih =>
    cases parts with
    | nil =>
      obtain ⟨hpart, hmark⟩ := h part (by simp)
      exact ⟨part.getLast hpart, fun hc => hmark (hc ▸ List.getLast_mem hpart), List.getLast?_eq_some_getLast hpart⟩
    | cons next parts =>
      obtain ⟨c, hc, hlast⟩ := ih (by simp) fun part hpart => h part (List.mem_cons_of_mem _ hpart)
      exact ⟨c, hc, by rw [join, List.getLast?_append, hlast, Option.some_or]; simp⟩

theorem endsWith_slash_iff (text : String) : text.endsWith "/" = true ↔ text.toList.getLast? = some '/' := by
  rw [← String.endsWith_toSlice, String.Slice.endsWith_string_iff, List.getLast?_eq_some_iff]
  simp only [String.copy_toSlice]
  exact ⟨fun ⟨front, h⟩ => ⟨front, h.symm⟩, fun ⟨front, h⟩ => ⟨front, h.symm⟩⟩

/-- a spelled path with steps does not end in a slash -/
theorem Path.endsWith_text {text : String} (h : (Path.read text).steps ≠ []) :
    (Path.read text).text.endsWith "/" = false := by
  obtain ⟨c, hc, hlast⟩ := getLast?_join h fun _ hstep => Path.step_read hstep
  rw [Bool.eq_false_iff, Ne, endsWith_slash_iff, Path.text, if_neg (by simp [h]), String.toList_ofList,
    List.getLast?_append, hlast]
  simpa using hc

/-- without steps a path leads to the top, where no file can be put -/
theorem Path.no_room {text : String} (h : (Path.read text).steps = []) (f : Folder) (place : Place) :
    f.room (Path.read text).text ≠ .ok place := by
  have htop : ∀ path, ((pieces '/' path.toList).filter (· ≠ [])) = [] ∨ ((pieces '/' path.toList).filter (· ≠ [])) = [['.']] →
      f.room path ≠ .ok place := by
    intro path hpath hroom
    obtain ⟨hlocate, hfolder⟩ := Folder.room_eq_ok_iff.1 hroom
    obtain ⟨-, -, -, hwalk, -⟩ := Folder.locate_eq_ok_iff.1 hlocate
    have hstart : place = [] := by
      rcases hpath with hpath | hpath <;> rw [hpath] at hwalk
      · simpa [Folder.walk] using hwalk.symm
      · simpa [Folder.walk, Folder.isFolder] using hwalk.symm
    simp [hstart, Folder.isFolder] at hfolder
  refine htop _ ?_
  rcases Path.root_read text with hroot | hroot | hroot <;> simp [Path.text, h, hroot, join] <;> decide

/-- a file written along a spelled path is found by it -/
theorem Folder.locate_written {f : Folder} {text : String} {place : Place} {content : Content}
    (h : f.room (Path.read text).text = .ok place) : (f.put place content).locate (Path.read text).text = .ok place := by
  by_cases hsteps : (Path.read text).steps = []
  · exact absurd h (Path.no_room hsteps f place)
  · exact locate_put (Path.endsWith_text hsteps) h

/-- whether a text that is written along a path is there afterwards and is read back as it is -/
def Keeping {σ : Type} (files : Files (StateM σ)) : Prop :=
  ∀ (path text : String) (w w' : σ),
    (files.write (Path.read path).text (.text text)).run w = (.ok (), w') →
      (files.present (Path.read path).text).run w' = (.ok true, w') ∧
        (files.read (Path.read path).text).run w' = (.ok text, w')

/-- a file goes where there is room for it -/
theorem Folder.write_run {f : Folder} {path : String} {place : Place} (content : Content)
    (h : f.room path = .ok place) : (Folder.operations.write path content).run f = (.ok (), f.put place content) := by
  show Folder.change path (fun f => do return f.put (← f.room path) content) f = _
  simp only [Folder.change, h, bind, Except.bind]
  rfl

/-- the folder in memory keeps what is written -/
theorem Folder.keeping : Keeping Folder.operations := by
  intro path text f f' hwrite
  obtain ⟨place, hroom, rfl⟩ : ∃ place, f.room (Path.read path).text = .ok place ∧ f' = f.put place (.text text) := by
    change Folder.change _ (fun f => do return f.put (← f.room (Path.read path).text) (.text text)) f = _ at hwrite
    cases hroom : f.room (Path.read path).text with
    | error trouble =>
      have hresult := congrArg Prod.fst hwrite
      simp [Folder.change, hroom, bind, Except.bind, pure] at hresult
    | ok place =>
      refine ⟨place, rfl, ?_⟩
      simpa [Folder.change, hroom, bind, Except.bind, pure, Except.pure] using (congrArg Prod.snd hwrite).symm
  have hplace : (f.put place (.text text)).locate (Path.read path).text = .ok place := Folder.locate_written hroom
  have hholds : (f.put place (.text text)).holds place = true := by simp [Folder.holds, Folder.content?_put]
  constructor
  · change (Folder.blame _ ((f.put place (.text text)).ask _ _), _) = _
    rw [Folder.ask, hplace]
    simp only [hholds]
    rfl
  · change (Folder.blame _ ((f.put place (.text text)).textAt _), _) = _
    simp only [Folder.textAt, hplace, bind, Except.bind, Folder.content?_put]
    rfl

end Files

/-! ## Settings in files -/

namespace Settings

open Json (Fields)
open Json.Fields (Keyed)

variable {σ : Type} {files : Files (StateM σ)} {under s : Settings} {w w' : σ}

/-- settings that were read went over those below, as an object that a text is -/
theorem readOver_ok {path text : String} (h : readOver under path text = .ok s) :
    ∃ fields, Keyed fields ∧ s = merge under fields := by
  unfold readOver at h
  split at h
  · cases h
  · rename_i value hread
    split at h
    · cases h
    · rename_i fields hfields
      refine ⟨fields, Json.read_keyed hread fields ?_, ?_⟩
      · cases value <;> simp_all [Json.fields?]
      · simpa using h.symm

/-- a step and what follows it -/
theorem bind_run {α β : Type} {x : StateM σ α} {f : α → StateM σ β} {b : β} (h : (x >>= f).run w = (b, w')) :
    ∃ a w₁, x.run w = (a, w₁) ∧ (f a).run w₁ = (b, w') := ⟨_, _, rfl, h⟩

/-- settings from a file are spelled by a text -/
theorem loadFrom_ok {path : String} {notes : List Log.Record}
    (h : (loadFrom files under path).run w = ((.ok s, notes), w')) : ∃ text, readOver under path text = .ok s := by
  obtain ⟨present, w₁, -, h⟩ := bind_run h
  split at h
  · cases h
  · cases h
  · obtain ⟨text, w₂, -, h⟩ := bind_run h
    cases text with
    | error fault => cases h
    | ok text => exact ⟨text, congrArg (fun result => result.1.1) h⟩

/-- loaded settings lie over those below, so laying them over these again changes nothing -/
theorem load_ok {path : Option Json} {notes : List Log.Record} (hunder : Keyed under)
    (h : (load files under path).run w = ((.ok s, notes), w')) : merge under s = s := by
  unfold load at h
  split at h
  · cases h
    exact merge_self hunder
  · cases h
  · obtain ⟨text, htext⟩ := loadFrom_ok h
    obtain ⟨fields, hfields, rfl⟩ := readOver_ok htext
    exact merge_over_below hunder hfields

theorem written_ok {path : String} {content : Files.Content} {told : List Log.Record}
    (h : (do
      let written := (← files.write path content).mapError (writeFault path)
      return (written, writeNotes path written) : StateM σ (Except StoreFault Unit × List Log.Record)).run w =
        ((.ok (), told), w')) :
    (files.write path content).run w = (.ok (), w') ∧ told = writeNotes path (.ok ()) := by
  obtain ⟨written, w₁, hwrite, h⟩ := bind_run h
  cases written with
  | error fault => cases h
  | ok =>
    cases h
    exact ⟨hwrite, rfl⟩

/-- saved settings were written, after whatever folders were made, and that is told -/
theorem save_ok {path : String} {folders : Bool} {told : List Log.Record}
    (h : (save files s path folders).run w = ((.ok (), told), w')) :
    (∃ w₁, (files.write (Files.Path.read path).text (.text s.document)).run w₁ = (.ok (), w')) ∧
      told = [Log.note Log.info .settings ("Configuration saved to: " ++ (Files.Path.read path).text)] := by
  unfold save at h
  cases folders with
  | false =>
    obtain ⟨hwrite, htold⟩ := written_ok h
    exact ⟨⟨w, hwrite⟩, htold⟩
  | true =>
    obtain ⟨made, w₁, -, h⟩ := bind_run h
    cases made with
    | error fault => cases h
    | ok =>
      obtain ⟨hwrite, htold⟩ := written_ok h
      exact ⟨⟨w₁, hwrite⟩, htold⟩

/-- settings are saved where they can be written, if no folder is to be made -/
theorem save_run {path : String}
    (h : (files.write (Files.Path.read path).text (.text s.document)).run w = (.ok (), w')) :
    (save files s path false).run w = ((.ok (),
      [Log.note Log.info .settings ("Configuration saved to: " ++ (Files.Path.read path).text)]), w') := by
  change ((files.write (Files.Path.read path).text (.text s.document)) >>= fun written =>
    pure (written.mapError (writeFault (Files.Path.read path).text),
      writeNotes (Files.Path.read path).text (written.mapError (writeFault (Files.Path.read path).text)))).run w = _
  rw [StateT.run_bind, h]
  rfl

/-- written settings are the same after their lines were evened out -/
theorem document_even (s : Settings) : Text.evenLineEnds s.document.toList = s.document.toList := by
  refine Text.evenLineEnds_of_no_return ?_
  rw [document, Json.pretty, String.toList_ofList]
  exact Json.write_no_return _ _

/-- settings without floating numbers are read back as they were written -/
theorem document_read (h : Json.Readable Json.depthLimit (.obj s)) : Json.read s.document.toList = .ok (.obj s) := by
  rw [document, Json.pretty, String.toList_ofList, Json.read_write _ h]

/-- a value laid over another is readable if both are; by how the upper one is put together -/
theorem readable_overlaid {room : Nat} {value : Json} (h : Json.Readable room value) :
    ∀ old : Option Json, (∀ t, old = some (.obj t) → Json.Readable room (.obj t)) →
      Json.Readable room (overlaid old value) := by
  induction h with
  | @obj room s once hfields ih =>
    intro old hold
    rcases object_or_mismatch old (.obj s) with ⟨t, upper, rfl, hupper⟩ | hmismatch
    · obtain rfl := Json.obj.inj hupper
      obtain ⟨honce, ht⟩ := Json.readable_obj_iff.1 (hold t rfl)
      rw [overlaid_obj]
      refine .obj (nodup_keys_merge honce once) fun field hfield => ?_
      have hkey := Json.Fields.get?_of_mem (nodup_keys_merge honce once) hfield
      rw [get?_merge t once] at hkey
      cases hvalue : s.get? field.1 with
      | none => exact ht _ (Json.Fields.mem_of_get? (by simpa [hvalue] using hkey))
      | some value =>
        have hover : overlaid (Fields.get? t field.1) value = field.2 := by simpa [hvalue] using hkey
        rw [← hover]
        exact ih (field.1, value) (Json.Fields.mem_of_get? hvalue) _ fun inner hinner => ht _ (Json.Fields.mem_of_get? hinner)
    · rw [overlaid_of_mismatch hmismatch]
      exact .obj once hfields
  | null => exact fun _ _ => .null
  | bool b => exact fun _ _ => .bool b
  | int hlimit => exact fun _ _ => .int hlimit
  | str s => exact fun _ _ => .str s
  | arr hitems => exact fun _ _ => .arr hitems

theorem defaults_readable (level : String) : Json.Readable Json.depthLimit (.obj (defaults level)) := by
  have hwhole : ∀ n ∈ [380, 420, 1, 16, 4], Number.inDigitLimit n = true := by decide +kernel
  have hint : ∀ n ∈ [380, 420, 1, 16, 4], Json.Readable 989 (.int n) := fun n hn => .int (hwhole n hn)
  have honce : (defaults level).keys.Nodup := (defaults_keyed level).once
  refine (.obj honce fun field hfield => ?_ : Json.Readable (989 + 1) (.obj (defaults level)))
  simp only [defaults, List.mem_cons, List.not_mem_nil, or_false] at hfield
  rcases hfield with rfl | rfl | rfl | rfl | rfl | rfl | rfl | rfl | rfl | rfl | rfl | rfl | rfl | rfl
  all_goals first | exact hint _ (by simp) | exact .str _ | exact .bool _ | exact .null

/-- settings written to a file are loaded over those below -/
theorem load_written (under : Settings) {path : String} (hfiles : Files.Keeping files)
    (hwrite : (files.write (Files.Path.read path).text (.text s.document)).run w = (.ok (), w'))
    (hread : Json.read s.document.toList = .ok (.obj s)) :
    (load files under (some (.str path))).run w' = ((.ok (merge under s),
      [Log.note Log.info .settings ("Loaded configuration from " ++ (Files.Path.read path).text)]), w') := by
  obtain ⟨hpresent, htext⟩ := hfiles _ _ _ _ hwrite
  have hover : readOver under (Files.Path.read path).text s.document = .ok (merge under s) := by
    simp only [readOver, hread, Json.fields?]
  have hrun : (files.readText (Files.Path.read path).text).run w' = (.ok s.document, w') := by
    simp only [StateT.run] at htext
    simp only [Files.readText, bind, StateT.run, StateT.bind, htext, Except.map, document_even,
      String.ofList_toList]
    rfl
  simp only [StateT.run] at hpresent hrun
  simp only [load, Option.map, Files.Path.ofValue, loadFrom, bind, StateT.run, StateT.bind, hpresent, hrun, hover]
  rfl

/-! ## Layers -/

/-- whether settings are others laid over settings below: which keys there are, and where each value comes from -/
structure LaidOver (t s m : Settings) : Prop where
  keyed : Keyed m
  keys : ∀ key, key ∈ m.keys ↔ key ∈ t.keys ∨ key ∈ s.keys
  below : ∀ key, key ∉ s.keys → m.get? key = t.get? key
  inside : ∀ key lower upper, t.get? key = some (.obj lower) → s.get? key = some (.obj upper) →
    m.get? key = some (.obj (merge lower upper))
  above : ∀ key value, s.get? key = some value → (∀ lower upper, t.get? key = some (.obj lower) → value ≠ .obj upper) →
    m.get? key = some value

theorem laidOver_merge {t : Settings} (ht : Keyed t) (hs : Keyed s) : LaidOver t s (merge t s) where
  keyed := keyed_merge ht hs
  keys _ := mem_keys_merge hs.once
  below key hkey := by rw [get?_merge t hs.once, Json.Fields.get?_eq_none_iff.2 hkey, Option.elim_none]
  inside key lower upper hlower hupper := by rw [get?_merge t hs.once, hupper, hlower, Option.elim_some, overlaid_obj]
  above key value hvalue hmismatch := by
    rw [get?_merge t hs.once, hvalue, Option.elim_some, overlaid_of_mismatch hmismatch]

/-- **Settings in layers.** What is laid over wins, objects go into objects, no key is lost, and laying over is absorbed.
So settings that were loaded and saved, if they are read back at all, are loaded as they were. -/
theorem layers_absorbed {t s : Settings} (ht : Keyed t) (hs : Keyed s) :
    LaidOver t s (merge t s) ∧ merge t t = t ∧ merge (merge t s) s = merge t s ∧ merge t (merge t s) = merge t s ∧
      ∀ {σ : Type} (files : Files (StateM σ)), Files.Keeping files →
        ∀ (level : String) (path : Option Json) (out : String) (folders : Bool) (loaded : Settings)
          (notes told : List Log.Record) (w w₁ w₂ w₃ : σ),
          (load files (defaults level) path).run w = ((.ok loaded, notes), w₁) →
          (save files loaded out folders).run w₂ = ((.ok (), told), w₃) →
          Json.read loaded.document.toList = .ok (.obj loaded) →
          (load files (defaults level) (some (.str out))).run w₃ = ((.ok loaded,
            [Log.note Log.info .settings ("Loaded configuration from " ++ (Files.Path.read out).text)]), w₃) := by
  refine ⟨laidOver_merge ht hs, merge_self ht, merge_again ht hs, merge_over_below ht hs, ?_⟩
  intro σ files hfiles level path out folders loaded notes told w w₁ w₂ w₃ hload hsave hread
  obtain ⟨⟨w', hwrite⟩, -⟩ := save_ok hsave
  have habsorbed := load_ok (defaults_keyed level) hload
  rw [load_written (defaults level) hfiles hwrite hread, habsorbed]

/-- a touch area in parts, a log without a file, and a theme in parts -/
def panel : Settings := [
  ("touch", .obj [("zone", .int 1), ("keep", .bool true)]), ("log_file", .null), ("theme", .obj [("dark", .bool true)])]

/-- an object over a number and over nothing, and a text over an object -/
def changes : Settings := [
  ("touch", .obj [("zone", .obj [("x", .int 3)])]), ("log_file", .obj [("name", .str "panel.log")]),
  ("theme", .str "plain")]

/-- the second laid over the first -/
def changed : Settings := [
  ("touch", .obj [("zone", .obj [("x", .int 3)]), ("keep", .bool true)]),
  ("log_file", .obj [("name", .str "panel.log")]), ("theme", .str "plain")]

/-- what the second makes of the settings that hold unless others are given -/
def loadedPanel : Settings := merge (defaults "INFO") changes

/-- a folder with the second in a file -/
def shelf : Files.Folder := Files.Folder.put {} ["panel.json".toList] (.text changes.document)

/-- the same with all settings in another file -/
def shelfSaved : Files.Folder := shelf.put ["all.json".toList] (.text loadedPanel.document)

theorem panel_readable : Json.Readable Json.depthLimit (.obj panel) := by
  have hone : Json.Readable 988 (.int 1) := .int (by decide +kernel)
  refine (.obj (by simp [panel]) ?_ : Json.Readable (989 + 1) (.obj panel))
  simp [panel, Json.readable_obj_iff, hone, Json.Readable.bool, Json.Readable.null]

theorem changes_readable : Json.Readable Json.depthLimit (.obj changes) := by
  have hthree : Json.Readable 987 (.int 3) := .int (by decide +kernel)
  refine (.obj (by simp [changes]) ?_ : Json.Readable (989 + 1) (.obj changes))
  simp [changes, Json.readable_obj_iff, hthree, Json.Readable.str]

theorem loadedPanel_readable : Json.Readable Json.depthLimit (.obj loadedPanel) := by
  have h := readable_overlaid changes_readable (some (.obj (defaults "INFO"))) fun t ht => by
    obtain rfl := Json.obj.inj (Option.some.inj ht)
    exact defaults_readable "INFO"
  rwa [overlaid_obj] at h

theorem layers_of_panel : Keyed panel ∧ Keyed changes ∧ LaidOver panel changes changed ∧ merge panel panel = panel ∧
    merge changed changes = changed ∧ merge panel changed = changed ∧
    ∃ notes told notes', (load Files.Folder.operations (defaults "INFO") (some (.str "panel.json"))).run shelf =
        ((.ok loadedPanel, notes), shelf) ∧
      (save Files.Folder.operations loadedPanel "all.json" false).run shelf = ((.ok (), told), shelfSaved) ∧
      (load Files.Folder.operations (defaults "INFO") (some (.str "all.json"))).run shelfSaved =
        ((.ok loadedPanel, notes'), shelfSaved) := by
  have hmerged : merge panel changes = changed := by
    simp [merge, overlaid, panel, changes, changed, Fields.put, Json.Fields.get?_cons]
  have hpanel : Keyed panel := panel_readable.keyed panel rfl
  have hchanges : Keyed changes := changes_readable.keyed changes rfl
  obtain ⟨hlaid, hself, hagain, hbelow, hloaded⟩ := layers_absorbed hpanel hchanges
  rw [hmerged] at hlaid hagain hbelow
  have hplace : Files.Folder.room {} (Files.Path.read "panel.json").text = .ok ["panel.json".toList] := by decide +kernel
  have hroom : shelf.room (Files.Path.read "all.json").text = .ok ["all.json".toList] := by decide +kernel
  have hwritten := Files.Folder.write_run (.text changes.document) hplace
  have hsaved := save_run (Files.Folder.write_run (.text loadedPanel.document) hroom)
  have hfirst := load_written (defaults "INFO") Files.Folder.keeping hwritten (document_read changes_readable)
  have hsecond := hloaded Files.Folder.operations Files.Folder.keeping "INFO" (some (.str "panel.json")) "all.json" false
    loadedPanel _ _ _ _ _ _ hfirst hsaved (document_read loadedPanel_readable)
  exact ⟨hpanel, hchanges, hlaid, hself, hagain, hbelow, _, _, _, hfirst, hsaved, hsecond⟩

end Settings

end SketchPanel
