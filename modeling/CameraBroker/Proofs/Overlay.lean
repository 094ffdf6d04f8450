import CameraBroker.Proofs.SavedConfig
import CameraBroker.Proofs.TakenFields

/-! Settings that a document gives replace the defaults, and nothing else in it matters. A setting
of the wrong kind or out of range makes the whole document unreadable. -/
namespace CameraBroker

namespace Config
open Toml

/-- A setting, where a document gives it, and where it is kept. -/
structure Setting where
  table : String
  name : String
  kind : Kind
  get : Config → Value

namespace Setting

def logLevel : Setting := ⟨"arbiter", "log_level", .text, fun c => .text c.logLevel⟩

def maxAttempts : Setting :=
  ⟨"opener", "max_attempts", .number 32, fun c => .number c.maxAttempts.toNat⟩

def retryInterval : Setting :=
  ⟨"opener", "retry_interval_ms", .number 63, fun c => .number c.retryInterval.toNat⟩

def cameras : Setting := ⟨"simulator", "cameras", .texts, fun c => .texts c.cameras⟩

def openLatency : Setting :=
  ⟨"simulator", "open_latency_ms", .number 63, fun c => .number c.openLatency.toNat⟩

def closeLatency : Setting :=
  ⟨"simulator", "close_latency_ms", .number 63, fun c => .number c.closeLatency.toNat⟩

def all : List Setting := [logLevel, maxAttempts, retryInterval, cameras, openLatency, closeLatency]

def node? (x : Setting) (t : Table) : Option Node :=
  match t.find? x.table with
  | some (.table u) => u.find? x.name
  | _ => none

def value? (x : Setting) (t : Table) : Option Value := (x.node? t).bind x.kind.value?

structure Reads (x : Setting) (f : Toml.Field Config) : Prop where
  given : ∀ {place n s s'}, n.Sound → f.take place n s = .ok s' → x.kind.value? n = some (x.get s')
  takes : ∀ {place n v s}, n.Sound → x.kind.value? n = some v → ∃ s', f.take place n s = .ok s'

end Setting

section fields
variable {α : Type} {f : Toml.Field Config} {read : Span → Node → Except Fault α}
  {put : Config → α → Config}

/-- A field that reads a value and puts it in its place. -/
def Puts (f : Toml.Field Config) (read : Span → Node → Except Fault α)
    (put : Config → α → Config) : Prop :=
  ∀ place n s, f.take place n s = return put s (← read place n)

theorem Puts.eq_ok (puts : Puts f read put) {place : Span} {n : Node} {s s' : Config} :
    f.take place n s = .ok s' ↔ ∃ a, read place n = .ok a ∧ put s a = s' := by
  rw [puts]
  cases read place n <;> simp [bind, Except.bind, pure, Except.pure]

theorem Puts.keeps {β : Type} {get : Config → β} (puts : Puts f read put)
    (same : ∀ s a, get (put s a) = get s) : f.Keeps get := by
  intro place n s s' takes
  obtain ⟨a, -, rfl⟩ := puts.eq_ok.1 takes
  exact same s a

theorem keeps_others : ∀ x ∈ Setting.all,
    ∀ f ∈ arbiterFields ++ openerFields ++ simulatorFields, f.name ≠ x.name → f.Keeps x.get := by
  intro x hx f hf other
  simp only [Setting.all, List.mem_cons, List.not_mem_nil, or_false] at hx
  simp only [arbiterFields, openerFields, simulatorFields, List.cons_append, List.nil_append,
    List.mem_cons, List.not_mem_nil, or_false] at hf
  rcases hx with rfl | rfl | rfl | rfl | rfl | rfl <;>
    rcases hf with rfl | rfl | rfl | rfl | rfl | rfl <;>
    first
    | exact absurd rfl other
    | exact Puts.keeps (fun _ _ _ => rfl) fun _ _ => rfl

structure Setting.Own (x : Setting) (fields : Schema Config) (label : String)
    (f : Toml.Field Config) : Prop where
  inSections : sections.find? (fun y => y.name = x.table) = some ⟨x.table, fields.take label⟩
  inFields : fields.find? (fun y => y.name = x.name) = some f
  listed : fields ⊆ arbiterFields ++ openerFields ++ simulatorFields
  reads : x.Reads f

theorem Puts.reads {x : Setting} {value? : Node → Option α} {wrap : α → Value}
    (puts : Puts f read put)
    (reads : ∀ {place n a}, n.Sound → (read place n = .ok a ↔ value? n = some a))
    (kind : ∀ n, x.kind.value? n = (value? n).map wrap)
    (get : ∀ {n a} s, value? n = some a → x.get (put s a) = wrap a) : x.Reads f where
  given sound takes := by
    obtain ⟨a, read, rfl⟩ := puts.eq_ok.1 takes
    have given := (reads sound).1 read
    rw [kind, given, get _ given]
    rfl
  takes sound valued := by
    rw [kind] at valued
    obtain ⟨a, given, -⟩ := Option.map_eq_some_iff.1 valued
    exact ⟨_, puts.eq_ok.2 ⟨a, (reads sound).2 given, rfl⟩⟩

/-- A time has at most 63 bits in a document, and its field takes 64. -/
theorem Puts.reads_time {x : Setting} {put : Config → Nat → Config}
    (puts : Puts f (readUnsigned 64) put) (kind : x.kind = .number 63)
    (get : ∀ s a, x.get (put s a) = .number (UInt64.ofNat a).toNat) :
    x.Reads f := by
  refine puts.reads (fun sound => sound.whole? ▸ readUnsigned_eq_ok) (fun n => by rw [kind]; rfl)
    fun {n a} s given => ?_
  have small : a < 2 ^ 64 := Nat.lt_trans (Node.whole?_lt given) (by decide)
  rw [get, UInt64.toNat_ofNat_of_lt' small]

namespace Setting

theorem own_logLevel : logLevel.Own arbiterFields "ArbiterSection" arbiterFields[0] :=
  ⟨rfl, rfl, by simp, Puts.reads (fun _ _ _ => rfl) (fun _ => readString_eq_ok) (fun _ => rfl)
    fun _ _ => rfl⟩

theorem own_maxAttempts : maxAttempts.Own openerFields "OpenerSection" openerFields[0] :=
  ⟨rfl, rfl, by simp, Puts.reads (fun _ _ _ => rfl) (fun _ => readUnsigned_eq_ok) (fun _ => rfl)
    fun _ given => congrArg Value.number (UInt32.toNat_ofNat_of_lt' (Node.whole?_lt given))⟩

theorem own_retryInterval : retryInterval.Own openerFields "OpenerSection" openerFields[1] :=
  ⟨rfl, rfl, by simp, Puts.reads_time (fun _ _ _ => rfl) rfl fun _ _ => rfl⟩

theorem own_cameras : cameras.Own simulatorFields "SimulatorSection" simulatorFields[0] :=
  ⟨rfl, rfl, by simp, Puts.reads (fun _ _ _ => rfl) (fun _ => readStrings_eq_ok) (fun _ => rfl)
    fun _ _ => rfl⟩

theorem own_openLatency : openLatency.Own simulatorFields "SimulatorSection" simulatorFields[1] :=
  ⟨rfl, rfl, by simp, Puts.reads_time (fun _ _ _ => rfl) rfl fun _ _ => rfl⟩

theorem own_closeLatency : closeLatency.Own simulatorFields "SimulatorSection" simulatorFields[2] :=
  ⟨rfl, rfl, by simp, Puts.reads_time (fun _ _ _ => rfl) rfl fun _ _ => rfl⟩

theorem exists_own : ∀ x ∈ all, ∃ fields label f, x.Own fields label f := by
  simp only [all, List.forall_mem_cons]
  exact ⟨⟨_, _, _, own_logLevel⟩, ⟨_, _, _, own_maxAttempts⟩, ⟨_, _, _, own_retryInterval⟩,
    ⟨_, _, _, own_cameras⟩, ⟨_, _, _, own_openLatency⟩, ⟨_, _, _, own_closeLatency⟩,
    List.forall_mem_nil _⟩

/-- Every field of a section is that of a setting. -/
theorem exists_setting : ∀ y ∈ sections, ∃ fields label, y.take = fields.take label ∧
    ∀ f ∈ fields, ∃ x ∈ all, x.table = y.name ∧ x.name = f.name ∧ x.Own fields label f := by
  simp only [sections, List.forall_mem_cons]
  refine ⟨⟨arbiterFields, _, rfl, ?_⟩, ⟨openerFields, _, rfl, ?_⟩,
    ⟨simulatorFields, _, rfl, ?_⟩, List.forall_mem_nil _⟩
  · simp only [arbiterFields, List.forall_mem_cons]
    exact ⟨⟨_, by simp [all], rfl, rfl, own_logLevel⟩, List.forall_mem_nil _⟩
  · simp only [openerFields, List.forall_mem_cons]
    exact ⟨⟨_, by simp [all], rfl, rfl, own_maxAttempts⟩,
      ⟨_, by simp [all], rfl, rfl, own_retryInterval⟩, List.forall_mem_nil _⟩
  · simp only [simulatorFields, List.forall_mem_cons]
    exact ⟨⟨_, by simp [all], rfl, rfl, own_cameras⟩,
      ⟨_, by simp [all], rfl, rfl, own_openLatency⟩,
      ⟨_, by simp [all], rfl, rfl, own_closeLatency⟩, List.forall_mem_nil _⟩

/-- No two settings have the same name. -/
theorem table_of_name : ∀ x ∈ all, ∀ y ∈ all, x.name = y.name → x.table = y.table := by
  decide

end Setting

/-- Sections other than a setting's own do not change it. -/
theorem keeps_sections : ∀ x ∈ Setting.all, ∀ y ∈ sections, y.name ≠ x.table → y.Keeps x.get := by
  intro x hx y hy other
  obtain ⟨fields, label, same, each⟩ := Setting.exists_setting y hy
  have keeps : ∀ f ∈ fields, f.Keeps x.get := by
    intro f hf
    obtain ⟨x', hx', table, named, own⟩ := each f hf
    refine keeps_others x hx f (own.listed hf) fun again => other ?_
    rw [← table]
    exact Setting.table_of_name x' hx' x hx (named.trans again)
  intro place n s s' takes
  rw [same] at takes
  have kept : Field.Keeps ⟨y.name, fields.take label⟩ x.get := Schema.keeps_take keeps label
  exact kept place n s s' takes

end fields

section overlay
variable {x : Setting} {t u : Table} {c s s' : Config} {fields : Schema Config} {label : String}
  {f : Toml.Field Config}

/-- What a section gives for a setting. -/
theorem get_section (hx : x ∈ Setting.all) (own : x.Own fields label f) (sound : u.Sound)
    (takes : fields.takeEntries u.entries s = .ok s') :
    u.find? x.name = none ∧ x.get s' = x.get s ∨
      ∃ n, u.find? x.name = some n ∧ x.kind.value? n = some (x.get s') := by
  have keeps : ∀ f' ∈ fields, f'.name ≠ x.name → f'.Keeps x.get := fun f' mem =>
    keeps_others x hx f' (own.listed mem)
  obtain ⟨absent, same⟩ | ⟨e, place, v, v', found, -, taken, same⟩ :=
    Schema.takeEntries_cases own.inFields keeps sound.distinct takes
  · exact .inl ⟨by simp [Table.find?, absent], same⟩
  · refine .inr ⟨e.2, by simp [Table.find?, found], ?_⟩
    rw [same]
    exact own.reads.given (sound.entries e (List.mem_of_find?_eq_some found)) taken

/-- What a document gives for a setting. -/
theorem ofTable_cases (hx : x ∈ Setting.all) (own : x.Own fields label f) (sound : t.Sound)
    (takes : ofTable t = .ok c) :
    t.find? x.table = none ∧ x.get c = x.get {} ∨
      ∃ n s s' place, t.find? x.table = some n ∧ x.get s = x.get {} ∧
        fields.take label place n s = .ok s' ∧ x.get c = x.get s' := by
  obtain ⟨absent, same⟩ | ⟨e, place, v, v', found, before, taken, same⟩ :=
    Schema.takeEntries_cases own.inSections (keeps_sections x hx) sound.distinct takes
  · exact .inl ⟨by simp [Table.find?, absent], same⟩
  · exact .inr ⟨e.2, v, v', place, by simp [Table.find?, found], before, taken, same⟩

def Sectioned (t : Table) : Prop := ∀ y ∈ sections, ∀ n ∈ t.find? y.name, n.isTable
deriving Decidable

/-- Each setting that is given has a value of its kind, and in range. -/
def Proper (t : Table) : Prop := ∀ x ∈ Setting.all, ∀ n ∈ x.node? t, (x.kind.value? n).isSome
deriving Decidable

theorem get_ofTable (hx : x ∈ Setting.all) (sound : t.Sound) (sectioned : Sectioned t)
    (takes : ofTable t = .ok c) : x.get c = (x.value? t).getD (x.get {}) := by
  obtain ⟨fields, label, f, own⟩ := Setting.exists_own x hx
  obtain ⟨absent, same⟩ | ⟨n, s, s', place, found, before, taken, same⟩ :=
    ofTable_cases hx own sound takes
  · simp [Setting.value?, Setting.node?, absent, same]
  · have inSections := List.mem_of_find?_eq_some own.inSections
    obtain ⟨u, rfl⟩ := Node.isTable_iff.1 (sectioned _ inSections n found)
    obtain ⟨absent, still⟩ | ⟨m, given, valued⟩ := get_section hx own (sound.child found) taken
    · simp [Setting.value?, Setting.node?, found, absent, same, still, before]
    · simp [Setting.value?, Setting.node?, found, given, valued, same]

/-- A single value that does not fit is enough to refuse the document. -/
theorem proper_of_ofTable (sound : t.Sound) (takes : ofTable t = .ok c) : Proper t := by
  intro x hx m given
  obtain ⟨fields, label, f, own⟩ := Setting.exists_own x hx
  unfold Setting.node? at given
  split at given
  · rename_i u found
    obtain ⟨absent, -⟩ | ⟨n, s, s', place, found', -, taken, -⟩ := ofTable_cases hx own sound takes
    · cases absent.symm.trans found
    · cases found.symm.trans found'
      obtain ⟨absent, -⟩ | ⟨m', given', valued⟩ := get_section hx own (sound.child found) taken
      · cases absent.symm.trans given
      · cases given.symm.trans given'
        simp [valued]
  · cases given

theorem exists_ofTable (sound : t.Sound) (sectioned : Sectioned t) (proper : Proper t) :
    ∃ c, ofTable t = .ok c := by
  refine Schema.exists_takeEntries (fun e mem y hy named place s => ?_) _
  obtain ⟨fields, label, same, each⟩ := Setting.exists_setting y hy
  have found : t.find? y.name = some e.2 := named ▸ sound.find?_of_mem mem
  obtain ⟨u, table⟩ := Node.isTable_iff.1 (sectioned y hy e.2 found)
  rw [table] at found
  rw [same, table]
  refine Schema.exists_takeEntries (fun e' mem' f hf named' place' s' => ?_) s
  obtain ⟨x, hx, inTable, own, owns⟩ := each f hf
  have inner := sound.child found
  have given : x.node? t = some e'.2 := by
    rw [Setting.node?, inTable, found, own, named']
    exact inner.find?_of_mem mem'
  obtain ⟨v, valued⟩ := Option.isSome_iff_exists.1 (proper x hx e'.2 given)
  exact owns.reads.takes (inner.entries e' mem') valued

/-- Settings are told apart by their parts. -/
theorem eq_of_get {c d : Config} (same : ∀ x ∈ Setting.all, x.get c = x.get d) : c = d := by
  simp only [Setting.all, List.forall_mem_cons, Setting.logLevel, Setting.maxAttempts,
    Setting.retryInterval, Setting.cameras, Setting.openLatency, Setting.closeLatency,
    Value.text.injEq, Value.number.injEq, Value.texts.injEq, UInt32.toNat_inj,
    UInt64.toNat_inj] at same
  obtain ⟨log, attempts, interval, cameras, opens, closes, -⟩ := same
  cases c
  cases d
  simp_all

end overlay

section loading
variable {path : String} {fs : Files} {text : String} {t : Table} {c : Config}

def loaded (fs : Files) (path : String) : Except ConfigError Config :=
  ((load path : StateM Files _).run fs).1

def Describes (fs : Files) (path : String) (t : Table) : Prop :=
  ∃ text : String, fs.read path = .ok text.toUTF8 ∧ Table.parse? text.toList = some t

theorem Describes.sound (h : Describes fs path t) : t.Sound := by
  obtain ⟨text, -, reads⟩ := h
  exact Table.parse?_sound reads

theorem loaded_of_read (reads : fs.read path = .ok text.toUTF8) :
    loaded fs path = (parse text).mapError .unreadable := by
  rw [loaded, load_of_read reads, ofBytes, fromUTF8_toUTF8]

theorem Describes.loaded_of_ok (h : Describes fs path t) (takes : ofTable t = .ok c) :
    loaded fs path = .ok c := by
  obtain ⟨text, reads, table⟩ := h
  simp only [loaded_of_read reads, parse, table, takes]
  rfl

theorem Describes.loaded_of_error {e : Fault} (h : Describes fs path t)
    (fails : ofTable t = .error e) :
    ∃ report, loaded fs path = .error (.unreadable (.fault report)) := by
  obtain ⟨text, reads, table⟩ := h
  refine ⟨e.report text.toList, ?_⟩
  simp only [loaded_of_read reads, parse, table, fails]
  rfl

theorem loaded_of_missing (missing : fs.read path = .error .notFound) :
    loaded fs path = .ok {} := by
  simp only [loaded, load, FileAccess.read, StateT.run, bind, StateT.bind, missing]
  rfl

theorem parse_empty : parse "" = .ok {} := by
  have parsed : (parse "").toOption = some {} := by decide +kernel
  cases given : parse "" with
  | ok c =>
    rw [given] at parsed
    exact congrArg _ (Option.some.inj parsed)
  | error e =>
    rw [given] at parsed
    cases parsed

end loading

/-- Settings that a document gives replace the defaults, and all others keep them. Documents that
give the same values are loaded as the same settings, in whatever order they come and whatever else
there is. A setting of the wrong kind or out of range makes the document unreadable, and a text that
is no document is unreadable as well. A missing file is loaded as an empty one. -/
theorem load_overlays (path : String) (fs : Files) :
    (∀ t, Describes fs path t →
      (Sectioned t → Proper t → ∃ c, loaded fs path = .ok c ∧
        (∀ x ∈ Setting.all, x.get c = (x.value? t).getD (x.get {})) ∧
        ∀ path' fs' t', Describes fs' path' t' → Sectioned t' → Proper t' →
          (∀ x ∈ Setting.all, x.value? t' = x.value? t) → loaded fs' path' = .ok c) ∧
      (¬Proper t → ∃ report, loaded fs path = .error (.unreadable (.fault report)))) ∧
    (∀ text : String, fs.read path = .ok text.toUTF8 → Table.parse? text.toList = none →
      loaded fs path = .error (.unreadable .malformed)) ∧
    (fs.read path = .error .notFound → ∀ path' fs', fs'.read path' = .ok "".toUTF8 →
      loaded fs path = loaded fs' path') := by
  refine ⟨fun t describes => ⟨fun sectioned proper => ?_, fun improper => ?_⟩,
    fun text reads malformed => ?_, fun missing path' fs' reads => ?_⟩
  · obtain ⟨c, takes⟩ := exists_ofTable describes.sound sectioned proper
    have gets : ∀ x ∈ Setting.all, x.get c = (x.value? t).getD (x.get {}) := fun x hx =>
      get_ofTable hx describes.sound sectioned takes
    refine ⟨c, describes.loaded_of_ok takes, gets,
      fun path' fs' t' describes' sectioned' proper' same => ?_⟩
    obtain ⟨c', takes'⟩ := exists_ofTable describes'.sound sectioned' proper'
    have equal : c' = c := eq_of_get fun x hx => by
      rw [get_ofTable hx describes'.sound sectioned' takes', same x hx, gets x hx]
    exact describes'.loaded_of_ok (equal ▸ takes')
  · cases takes : ofTable t with
    | ok c => exact absurd (proper_of_ofTable describes.sound takes) improper
    | error e => exact describes.loaded_of_error takes
  · simp only [loaded_of_read reads, parse, malformed]
    rfl
  · rw [loaded_of_missing missing, loaded_of_read reads, parse_empty]
    rfl

def plainText : String := "[opener]\nmax_attempts = 7\n[simulator]\ncameras = [\"front\"]\n"

/-- The same settings in another order, among entries of other names. -/
def mixedText : String :=
  "zoom = 1.5\nsimulator.cameras = ['front']\nsimulator.lens = []\n" ++
    "[lights]\non = true\n[opener]\nretries = 2\nmax_attempts = 0x7 # seven\n"

/-- A time below zero, and a setting that would do. -/
def wrongText : String := "[opener]\nretry_interval_ms = -1\nmax_attempts = 7\n"

/-- A time that needs 64 bits. -/
def largeText : String := "[opener]\nretry_interval_ms = 9223372036854775808\n"

def alone (text : String) : Files where
  nodes := [(["config.toml"], .file text.toUTF8)]

theorem locate_top {fs : Files} (top : fs.here = []) :
    fs.locate "config.toml" = .ok ["config.toml"] := by
  have named : "config.toml" ≠ "" := by decide
  have relative : "config.toml".startsWith "/" = false := by decide +kernel
  have steps : Path.steps "config.toml" = ["config.toml"] := by decide +kernel
  have next : Files.next [] "config.toml" = ["config.toml"] := by decide
  simp only [Files.locate, if_neg named, Files.start, relative, Bool.false_eq_true, if_false, top,
    steps, Files.walk, Files.node?, if_true, next]

theorem read_alone (text : String) : (alone text).read "config.toml" = .ok text.toUTF8 := by
  have final : "config.toml".endsWith "/" = false := by decide +kernel
  have found : (alone text).node? ["config.toml"] = some (.file text.toUTF8) := by
    rw [Files.node?, if_neg (List.cons_ne_nil _ _), alone, List.lookup_cons_self]
  rw [Files.read, locate_top rfl]
  simp only [bind, Except.bind, found, final, Bool.false_eq_true, if_false]
  rfl

theorem read_none : ({} : Files).read "config.toml" = .error .notFound := by
  rw [Files.read, locate_top rfl]
  rfl

theorem load_overlays_mixed :
    let c : Config := { maxAttempts := 7, cameras := ["front"] }
    loaded (alone plainText) "config.toml" = .ok c ∧
      loaded (alone mixedText) "config.toml" = .ok c ∧
      (∃ report, loaded (alone wrongText) "config.toml" = .error (.unreadable (.fault report))) ∧
      loaded (alone largeText) "config.toml" = .error (.unreadable .malformed) ∧
      loaded {} "config.toml" = loaded (alone "") "config.toml" := by
  intro c
  let values : List (Option Value) :=
    [none, some (.number 7), none, some (.texts ["front"]), none, none]
  have plain : ∃ t ∈ Table.parse? plainText.toList, Sectioned t ∧ Proper t ∧
      Setting.all.map (·.value? t) = values ∧
      ∀ x ∈ Setting.all, (x.value? t).getD (x.get {}) = x.get c := by decide +kernel
  have mixed : ∃ t ∈ Table.parse? mixedText.toList, Sectioned t ∧ Proper t ∧
      Setting.all.map (·.value? t) = values := by decide +kernel
  have wrong : ∃ t ∈ Table.parse? wrongText.toList, ¬Proper t := by decide +kernel
  have large : (Table.parse? largeText.toList).isNone := by decide +kernel
  obtain ⟨t, reads, sectioned, proper, given, overlaid⟩ := plain
  obtain ⟨t', reads', sectioned', proper', given'⟩ := mixed
  obtain ⟨u, readsWrong, improper⟩ := wrong
  have same : ∀ x ∈ Setting.all, x.value? t' = x.value? t :=
    List.map_inj_left.1 (given'.trans given.symm)
  obtain ⟨c', loads, gets, others⟩ := ((load_overlays "config.toml" (alone plainText)).1 t
    ⟨plainText, read_alone _, reads⟩).1 sectioned proper
  obtain rfl : c' = c := eq_of_get fun x hx => (gets x hx).trans (overlaid x hx)
  refine ⟨loads, ?_, ?_, ?_, ?_⟩
  · exact others "config.toml" (alone mixedText) t' ⟨mixedText, read_alone _, reads'⟩ sectioned'
      proper' same
  · exact ((load_overlays "config.toml" (alone wrongText)).1 u
      ⟨wrongText, read_alone _, readsWrong⟩).2 improper
  · exact (load_overlays "config.toml" (alone largeText)).2.1 largeText (read_alone _)
      (Option.isNone_iff_eq_none.1 large)
  · exact (load_overlays "config.toml" {}).2.2 read_none "config.toml" (alone "") (read_alone "")

end Config

end CameraBroker
