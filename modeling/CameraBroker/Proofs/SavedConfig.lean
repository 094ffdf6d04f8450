import CameraBroker.Config.File
import CameraBroker.Proofs.ConfigText
import CameraBroker.Proofs.FileTree

/-! Settings that are saved are loaded again as they were, whatever the file held before. If a
time is too large for a document, saving says so, and no file is touched. -/
namespace CameraBroker.Config

theorem fromUTF8_toUTF8 (text : String) : String.fromUTF8? text.toUTF8 = some text := by
  rw [String.fromUTF8?, String.toUTF8_eq_toByteArray, dif_pos text.isValidUTF8]
  rfl

theorem ofBytes_text {c : Config} {text : String} (h : c.text? = some text) (path : String) :
    ofBytes path text.toUTF8 = .ok c := by
  rw [ofBytes, fromUTF8_toUTF8]
  simp only [parse_text h]
  rfl

section files
variable {path parent : String} {c : Config} {fs fs' : Files}

theorem load_of_read {content : ByteArray} (h : fs.read path = .ok content) :
    ((load path : StateM Files _).run fs).1 = ofBytes path content := by
  simp only [load, FileAccess.read, StateT.run, bind, StateT.bind, h]
  rfl

theorem write_of_text {text : String} (written : c.text? = some text)
    (takes : fs.write path text.toUTF8 = .ok fs') :
    (write path c : StateM Files _).run fs = (.ok (), fs') := by
  simp only [write, written, FileAccess.write, Files.run, StateT.run, bind, StateT.bind, takes]
  rfl

theorem write_of_none (unwritten : c.text? = none) :
    (write path c : StateM Files _).run fs = (.error .tooLarge, fs) := by
  simp only [write, unwritten]
  rfl

theorem save_of_ok (isParent : Path.parent? path = some parent)
    (made : fs.makeDirectories parent = .ok fs') :
    (save path c : StateM Files _).run fs = (write path c : StateM Files _).run fs' := by
  simp only [save, isParent, FileAccess.makeDirectories, Files.run, StateT.run, bind, StateT.bind,
    made]

theorem save_of_error {e : FileError} (isParent : Path.parent? path = some parent)
    (failed : fs.makeDirectories parent = .error e) :
    (save path c : StateM Files _).run fs = (.error (.io parent e), fs) := by
  simp only [save, isParent, FileAccess.makeDirectories, Files.run, StateT.run, bind, StateT.bind,
    failed]
  rfl

theorem save_of_none (noParent : Path.parent? path = none) :
    (save path c : StateM Files _).run fs = (write path c : StateM Files _).run fs := by
  simp only [save, noParent]

theorem save_of_writable {text : String} (h : fs.Writable path) (written : c.text? = some text) :
    ∃ fs', (save path c : StateM Files _).run fs = (.ok (), fs') ∧
      fs'.read path = .ok text.toUTF8 := by
  obtain ⟨parent, isParent⟩ := h.hasParent
  obtain ⟨between, made⟩ := h.clear.makeDirectories isParent
  obtain ⟨fs', takes, reads⟩ := h.write isParent made text.toUTF8
  exact ⟨fs', (save_of_ok isParent made).trans (write_of_text written takes), reads⟩

/-- What cannot be written changes no file. -/
theorem save_of_unwritten (path : String) (fs : Files) (unwritten : c.text? = none) :
    ∃ made, Files.Extends made fs ((save path c : StateM Files _).run fs).2 := by
  cases isParent : Path.parent? path with
  | none =>
    rw [save_of_none isParent, write_of_none unwritten]
    exact ⟨[], .refl _ _⟩
  | some parent =>
    cases made : fs.makeDirectories parent with
    | error e =>
      rw [save_of_error isParent made]
      exact ⟨[], .refl _ _⟩
    | ok fs' =>
      rw [save_of_ok isParent made, write_of_none unwritten]
      exact Files.makeDirectories_extends made

theorem save_of_clear (h : fs.Clear path) (unwritten : c.text? = none) :
    ((save path c : StateM Files _).run fs).1 = .error .tooLarge := by
  cases isParent : Path.parent? path with
  | none => rw [save_of_none isParent, write_of_none unwritten]
  | some parent =>
    obtain ⟨fs', made⟩ := h.makeDirectories isParent
    rw [save_of_ok isParent made, write_of_none unwritten]

end files

/-- Settings whose times fit are saved at any path that can be written, and loading gives the
same settings back, whatever stood there before. Other settings are refused as too large, and
every file keeps its content. -/
theorem save_round_trip (path : String) (c : Config) (fs : Files) :
    (c.Fits → fs.Writable path →
      ((save path c : StateM Files _).run fs).1 = .ok () ∧
      ((load path : StateM Files _).run ((save path c : StateM Files _).run fs).2).1 = .ok c) ∧
    (¬c.Fits →
      (fs.Clear path → ((save path c : StateM Files _).run fs).1 = .error .tooLarge) ∧
      ∀ file content, fs.read file = .ok content →
        ((save path c : StateM Files _).run fs).2.read file = .ok content) := by
  constructor
  · intro fits writable
    obtain ⟨text, written⟩ := Option.isSome_iff_exists.mp ((isSome_text?_iff c).mpr fits)
    obtain ⟨fs', saves, reads⟩ := save_of_writable writable written
    rw [saves, load_of_read reads]
    exact ⟨rfl, ofBytes_text written path⟩
  · intro large
    have unwritten : c.text? = none := by
      rw [← Option.not_isSome_iff_eq_none, isSome_text?_iff]
      exact large
    obtain ⟨made, grows⟩ := save_of_unwritten path fs unwritten
    exact ⟨fun clear => save_of_clear clear unwritten, fun file content => grows.read⟩

def occupied : Files where
  here := ["home"]
  nodes := [(["home"], .directory), (["home", "kept"], .directory),
    (["home", "kept", "config.toml"], .file "[arbiter".toUTF8)]

/-- Settings with strings that differ in the forms they take. -/
def motley : Config where
  logLevel := "warn\r\n\"\"\"'''\x01"
  maxAttempts := 4294967295
  cameras := ["", "C:\\video", "it's", "'\\''", "é\n''"]
  retryInterval := 9223372036854775807

theorem save_round_trip_motley :
    (motley.Fits ∧ occupied.Writable "kept/config.toml" ∧
      ((save "kept/config.toml" motley : StateM Files _).run occupied).1 = .ok () ∧
      ((load "kept/config.toml" : StateM Files _).run
        ((save "kept/config.toml" motley : StateM Files _).run occupied).2).1 = .ok motley) ∧
    let late : Config := { motley with openLatency := 9223372036854775808 }
    ¬late.Fits ∧ occupied.Clear "kept/config.toml" ∧
      ((save "kept/config.toml" late : StateM Files _).run occupied).1 = .error .tooLarge ∧
      occupied.read "kept/config.toml" = .ok "[arbiter".toUTF8 ∧
      ((save "kept/config.toml" late : StateM Files _).run occupied).2.read "kept/config.toml" =
        .ok "[arbiter".toUTF8 := by
  have start : occupied.start "kept/config.toml" = ["home"] := by decide +kernel
  have way : occupied.onTheWay "kept/config.toml" = [["home", "kept"]] := by decide +kernel
  have target : occupied.target "kept/config.toml" = ["home", "kept", "config.toml"] := by
    decide +kernel
  have slashless : "kept/config.toml".endsWith "/" = false := by decide +kernel
  have kept : occupied.node? ["home", "kept"] = some .directory := rfl
  have old : occupied.node? ["home", "kept", "config.toml"] =
    some (.file "[arbiter".toUTF8) := rfl
  have clear : occupied.Clear "kept/config.toml" := by
    rw [Files.Clear, way]
    simp [kept]
  have writable : occupied.Writable "kept/config.toml" :=
    ⟨slashless, by rw [start]; rfl, clear, by rw [start, way, target]; decide,
      by rw [target, old]; simp⟩
  have fits : motley.Fits := ⟨by decide, by decide, by decide⟩
  have large : ¬({ motley with openLatency := 9223372036854775808 } : Config).Fits :=
    fun fits => absurd fits.openLatency (by decide)
  have located : occupied.locate "kept/config.toml" = .ok ["home", "kept", "config.toml"] := by
    rw [← target]
    exact Files.locate_of_directories writable.steps_ne_nil writable.starts
      (by simpa [way] using kept)
  have stands : occupied.read "kept/config.toml" = .ok "[arbiter".toUTF8 :=
    Files.read_eq_ok_iff.mpr ⟨_, located, old, slashless⟩
  obtain ⟨saves, loads⟩ := (save_round_trip "kept/config.toml" motley occupied).1 fits writable
  obtain ⟨refuses, keeps⟩ := (save_round_trip "kept/config.toml" _ occupied).2 large
  exact ⟨⟨fits, writable, saves, loads⟩, large, clear, refuses clear, stands, keeps _ _ stands⟩

end CameraBroker.Config
