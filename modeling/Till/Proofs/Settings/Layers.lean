import Till.CommandLine.Run
import Till.Proofs.Checked

/-!
# Layers of settings

Each value that a command runs with is the one that the highest layer gives: the flags, then the
environment, then the file, and last the default (`Settings.Settled`). A layer that gives one value
leaves the others to those below it. What the file itself says is `SettingsFile.layer`. Main
statement: loading yields just these settings, and fails just if the file cannot be read, the host
that is left is blank or the operator of the file is none (`Settings.layered_iff`).
-/

theorem Option.getD_or_or {α : Type} (a b c : Option α) (d : α) :
    ((a.or b).or c).getD d = a.getD (b.getD (c.getD d)) := by
  cases a <;> cases b <;> rfl

namespace Till

/-! ### What a file says -/

/-- The value in a column of a record. -/
def Toml.column? (names : List String) (name : String) (v : Toml) : Option Toml :=
  ((v.columns? names).bind (·[names.idxOf name]?)).join

/-- The values of one layer; what it does not give is left to those below. -/
structure Layer where
  host : Option String
  secret : Option String
  serial : Option String
  verifyTls : Option Bool

namespace SettingsFile

/-- The part of the document with the name, if there is one. -/
def part? (name : String) : SettingsFile → Option Toml
  | text s =>
    (Toml.parse? s).bind (Toml.column? ["connection", "transport", "operator", "customer"] name)
  | _ => none

/-- The values that the document has. -/
def layer (file : SettingsFile) : Layer :=
  let connectionText (name : String) : Option String :=
    ((file.part? "connection").bind (Toml.column? ["host", "secret", "serial"] name)).bind
      Toml.string?
  { host := connectionText "host"
    secret := connectionText "secret"
    serial := connectionText "serial"
    verifyTls := ((file.part? "transport").bind (Toml.column? ["verify_tls"] "verify_tls")).bind
      Toml.boolean? }

end SettingsFile

theorem Toml.column?_of_columns? {names : List String} {v : Toml} {vs : List (Option Toml)}
    (h : v.columns? names = some vs) (name : String) :
    v.column? names name = (vs[names.idxOf name]?).join := by
  rw [column?, h]
  rfl

namespace Settings

theorem textOrEmpty?_eq_some {v : Option Toml} {t : String} (h : textOrEmpty? v = some t) :
    (v.bind Toml.string?).getD "" = t := by
  cases v with
  | none => cases h; rfl
  | some v =>
    have hv : v.string? = some t := h
    rw [Option.bind_some, hv]
    rfl

theorem connection_of_connectionOf? {v : Option Toml} {c : Connection}
    (h : connectionOf? v = some c) :
    let text (name : String) : String :=
      ((v.bind (Toml.column? ["host", "secret", "serial"] name)).bind Toml.string?).getD ""
    c = ⟨text "host", text "secret", text "serial"⟩ := by
  cases v with
  | none => cases h; rfl
  | some v =>
    simp only [connectionOf?] at h
    split at h
    · rename_i host secret serial hcolumns
      obtain ⟨t, ht, h⟩ := Option.bind_eq_some_iff.1 h
      obtain ⟨t', ht', h⟩ := Option.bind_eq_some_iff.1 h
      obtain ⟨t'', ht'', h⟩ := Option.bind_eq_some_iff.1 h
      cases h
      simp only [Option.bind_some, Toml.column?_of_columns? hcolumns]
      rw [← textOrEmpty?_eq_some ht, ← textOrEmpty?_eq_some ht', ← textOrEmpty?_eq_some ht'']
      rfl
    · cases h

theorem verifyTls_of_verifyTlsOf? {v : Option Toml} {b : Bool} (h : verifyTlsOf? v = some b) :
    b = ((v.bind (Toml.column? ["verify_tls"] "verify_tls")).bind Toml.boolean?).getD false := by
  cases v with
  | none => cases h; rfl
  | some v =>
    rw [Option.bind_some]
    simp only [verifyTlsOf?] at h
    split at h
    · rename_i hcolumns
      cases h
      rw [Toml.column?_of_columns? hcolumns]
      rfl
    · rename_i u hcolumns
      rw [Toml.column?_of_columns? hcolumns]
      show b = (u.boolean?).getD false
      rw [h]
      rfl
    · cases h

/-- What a document says about the connection is read, and what it does not say is empty. -/
theorem base_of_ofFile {file : SettingsFile} {base : Settings} (h : ofFile file = .ok base) :
    base.connection = ⟨file.layer.host.getD "", file.layer.secret.getD "",
      file.layer.serial.getD ""⟩ ∧ base.verifyTls = file.layer.verifyTls.getD false := by
  cases file with
  | absent => cases h; exact ⟨rfl, rfl⟩
  | unreadable => cases h
  | text s =>
    simp only [ofFile, parse] at h
    split at h
    · rename_i base' hbase
      cases h
      obtain ⟨v, hv, hbase⟩ := Option.bind_eq_some_iff.1 hbase
      have hpart (name : String) : (SettingsFile.text s).part? name =
          v.column? ["connection", "transport", "operator", "customer"] name := by
        simp only [SettingsFile.part?, hv, Option.bind_some]
      unfold ofToml? at hbase
      split at hbase
      · rename_i connection transport operator customer hcolumns
        obtain ⟨c, hc, hbase⟩ := Option.bind_eq_some_iff.1 hbase
        obtain ⟨b, hb, hbase⟩ := Option.bind_eq_some_iff.1 hbase
        obtain ⟨o, -, hbase⟩ := Option.bind_eq_some_iff.1 hbase
        obtain ⟨u, -, hbase⟩ := Option.bind_eq_some_iff.1 hbase
        cases hbase
        simp only [SettingsFile.layer, hpart, Toml.column?_of_columns? hcolumns]
        exact ⟨connection_of_connectionOf? hc, verifyTls_of_verifyTlsOf? hb⟩
      · cases hbase
    · cases h

end Settings

/-! ### What the environment and the flags say -/

/-- The truth value that a word names, in any case of its letters. -/
inductive Environment.Names (word : String) : Bool → Prop
  | on (h : Text.lower word ∈ ["1", "true", "yes", "on"]) : Names word true
  | off (h : Text.lower word ∈ ["0", "false", "no", "off"]) : Names word false

theorem Environment.switch?_eq_some_iff {word : String} {b : Bool} :
    switch? word = some b ↔ Names word b := by
  have hdisjoint : ∀ folded ∈ ["1", "true", "yes", "on"],
      folded ∉ ["0", "false", "no", "off"] := by decide
  unfold switch?
  simp only
  split_ifs with hon hoff
  · constructor
    · rintro ⟨⟩; exact .on hon
    · rintro (h | h)
      · rfl
      · exact absurd h (hdisjoint _ hon)
  · constructor
    · rintro ⟨⟩; exact .off hoff
    · rintro (h | h)
      · exact absurd h hon
      · rfl
  · constructor
    · rintro ⟨⟩
    · rintro (h | h)
      · exact absurd h hon
      · exact absurd h hoff

namespace Settings

/-- The settings that three layers leave: the file, over it the variables, over those the flags. -/
structure Settled (file : SettingsFile) (get : String → Option String) (o : Overrides)
    (base s : Settings) : Prop where
  host : s.connection.host = ((o.host.or (get "KKM_HOST")).or file.layer.host).getD ""
  secret : s.connection.secret = ((o.secret.or (get "KKM_SECRET")).or file.layer.secret).getD ""
  serial : s.connection.serial = ((o.serial.or (get "KKM_SERIAL")).or file.layer.serial).getD ""
  flag : o.verifyTls = true → s.verifyTls = true
  /-- Without the flag the variable counts if its word is known. -/
  word : o.verifyTls = false → ∀ b, (∃ word ∈ get "KKM_VERIFY_TLS", Environment.Names word b) →
    s.verifyTls = b
  unknownWord : o.verifyTls = false →
    (∀ word ∈ get "KKM_VERIFY_TLS", ∀ b, ¬ Environment.Names word b) →
    s.verifyTls = file.layer.verifyTls.getD false
  operator : s.operator = base.operator
  customer : s.customer = base.customer

/-- Why there are no settings to run with; `host` is the one that is left. -/
inductive Fails (file : SettingsFile) (host : String) : ClientError → Prop
  | unreadable (h : file = .unreadable) : Fails file host .unreadableConfig
  | malformed {text : String} (h : file = .text text) (hparse : ∀ base, parse text ≠ .ok base) :
      Fails file host .unreadableConfig
  | noHost {base : Settings} (h : ofFile file = .ok base) (hhost : Text.isBlankText host = true) :
      Fails file host (.invalidConfiguration .noHost)
  | operator {base : Settings} {e : OperatorEntry} {err : ClientError}
      (h : ofFile file = .ok base) (hhost : Text.isBlankText host = false)
      (he : e ∈ base.operator) (herr : e.operator = .error err) : Fails file host err

variable {file : SettingsFile} {get : String → Option String} {o : Overrides} {base s s' : Settings}

/-! ### Loading -/

/-- The values of the connection, layer by layer. -/
theorem connection_layers (h : ofFile file = .ok base) :
    ((base.withEnvironment (.ofVariables get)).withOverrides o).connection =
      ⟨((o.host.or (get "KKM_HOST")).or file.layer.host).getD "",
        ((o.secret.or (get "KKM_SECRET")).or file.layer.secret).getD "",
        ((o.serial.or (get "KKM_SERIAL")).or file.layer.serial).getD ""⟩ := by
  simp only [withOverrides, withEnvironment, replaced, Environment.ofVariables,
    (base_of_ofFile h).1, Option.getD_or_or]

theorem settled_layers (h : ofFile file = .ok base) :
    Settled file get o base ((base.withEnvironment (.ofVariables get)).withOverrides o) := by
  have hconnection := @connection_layers file get o base h
  refine ⟨congrArg Connection.host hconnection, congrArg Connection.secret hconnection,
    congrArg Connection.serial hconnection, fun ho => ?_, fun ho b hb => ?_, fun ho hno => ?_,
    rfl, rfl⟩
  · simp only [withOverrides, ho, Bool.true_or]
  · obtain ⟨word, hword, hb⟩ := hb
    simp only [withOverrides, withEnvironment, Environment.ofVariables, ho, Bool.false_or,
      Option.mem_def.1 hword, Option.bind_some, Environment.switch?_eq_some_iff.2 hb,
      Option.getD_some]
  · have hnone : (get "KKM_VERIFY_TLS").bind Environment.switch? = none := by
      rw [Option.bind_eq_none_iff]
      intro word hword
      rw [Option.eq_none_iff_forall_ne_some]
      exact fun b hb => hno word hword b (Environment.switch?_eq_some_iff.1 hb)
    simp only [withOverrides, withEnvironment, Environment.ofVariables, ho, Bool.false_or, hnone,
      Option.getD_none, (base_of_ofFile h).2]

/-- The layers leave one settings only. -/
theorem Settled.unique (h : Settled file get o base s) (h' : Settled file get o base s') :
    s = s' := by
  have hverify : s.verifyTls = s'.verifyTls := by
    cases ho : o.verifyTls with
    | true => rw [h.flag ho, h'.flag ho]
    | false =>
      by_cases hword : ∃ b, ∃ word ∈ get "KKM_VERIFY_TLS", Environment.Names word b
      · obtain ⟨b, hb⟩ := hword
        rw [h.word ho b hb, h'.word ho b hb]
      · have hno : ∀ word ∈ get "KKM_VERIFY_TLS", ∀ b, ¬ Environment.Names word b :=
          fun word hw b hb => hword ⟨b, word, hw, hb⟩
        rw [h.unknownWord ho hno, h'.unknownWord ho hno]
  obtain ⟨⟨host, secret, serial⟩, verifyTls, operator, customer⟩ := s
  obtain ⟨⟨host', secret', serial'⟩, verifyTls', operator', customer'⟩ := s'
  cases h.host.trans h'.host.symm
  cases h.secret.trans h'.secret.symm
  cases h.serial.trans h'.serial.symm
  cases hverify
  cases h.operator.trans h'.operator.symm
  cases h.customer.trans h'.customer.symm
  rfl

theorem layered_of_ofFile (h : ofFile file = .ok base) (hs : Settled file get o base s) :
    layered file (.ofVariables get) o = s.validated := by
  rw [hs.unique (settled_layers h), layered, read, h]
  simp only [Except.map, Except.bind]

theorem layered_of_error {err : ClientError} (h : ofFile file = .error err) (e : Environment)
    (o : Overrides) : layered file e o = .error err := by
  rw [layered, read, h]
  rfl

theorem ofFile_eq_error_iff {err : ClientError} : ofFile file = .error err ↔
    err = .unreadableConfig ∧
      (file = .unreadable ∨ ∃ text, file = .text text ∧ ∀ base, parse text ≠ .ok base) := by
  cases file with
  | absent => simp [ofFile]
  | unreadable => simp [ofFile, eq_comm]
  | text t =>
    simp only [ofFile, parse, SettingsFile.text.injEq, reduceCtorEq, false_or, exists_eq_left']
    cases (Toml.parse? t).bind ofToml? with
    | none => simp [eq_comm]
    | some s => simp

theorem validate_eq_ok_iff : s.validate = .ok () ↔
    Text.isBlankText s.connection.host = false ∧ ∀ e ∈ s.operator, ∃ x, e.operator = .ok x := by
  unfold validate
  cases Text.isBlankText s.connection.host with
  | true => simp
  | false =>
    cases s.operator with
    | none => simp
    | some e => simp [Except.map_eq_ok_iff]

theorem validate_eq_error_iff {err : ClientError} : s.validate = .error err ↔
    (Text.isBlankText s.connection.host = true ∧ err = .invalidConfiguration .noHost) ∨
      (Text.isBlankText s.connection.host = false ∧
        ∃ e ∈ s.operator, e.operator = .error err) := by
  unfold validate
  cases Text.isBlankText s.connection.host with
  | true => simp [eq_comm]
  | false =>
    cases s.operator with
    | none => simp
    | some e => cases h : e.operator <;> simp [h, Except.map]

theorem validated_eq_ok_iff : s.validated = .ok s' ↔ s' = s ∧ s.validate = .ok () := by
  unfold validated
  cases s.validate <;> simp [Except.map, eq_comm]

theorem validated_eq_error_iff {err : ClientError} :
    s.validated = .error err ↔ s.validate = .error err := by
  unfold validated
  cases s.validate <;> simp [Except.map]

theorem layered_eq_ok_iff : layered file (.ofVariables get) o = .ok s ↔
    ∃ base, ofFile file = .ok base ∧ Settled file get o base s ∧
      Text.isBlankText s.connection.host = false ∧ ∀ e ∈ s.operator, ∃ x, e.operator = .ok x := by
  cases hfile : ofFile file with
  | error err => simp [layered_of_error hfile]
  | ok base =>
    have hsettled : Settled file get o base _ := settled_layers hfile
    rw [layered_of_ofFile hfile hsettled, validated_eq_ok_iff, validate_eq_ok_iff]
    constructor
    · rintro ⟨rfl, hvalid⟩
      exact ⟨base, rfl, hsettled, hvalid⟩
    · rintro ⟨_, ⟨⟩, hs, hvalid⟩
      cases hs.unique hsettled
      exact ⟨rfl, hvalid⟩

theorem layered_eq_error_iff {err : ClientError} :
    layered file (.ofVariables get) o = .error err ↔
      Fails file (((o.host.or (get "KKM_HOST")).or file.layer.host).getD "") err := by
  cases hfile : ofFile file with
  | error err' =>
    obtain ⟨rfl, hwhy⟩ := ofFile_eq_error_iff.1 hfile
    rw [layered_of_error hfile]
    constructor
    · rintro ⟨⟩
      rcases hwhy with hwhy | ⟨text, htext, hparse⟩
      · exact .unreadable hwhy
      · exact .malformed htext hparse
    · intro hfails
      cases hfails with
      | unreadable | malformed => rfl
      | noHost h | operator h => cases hfile.symm.trans h
  | ok base =>
    have hsettled : Settled file get o base _ := settled_layers hfile
    rw [layered_of_ofFile hfile hsettled, validated_eq_error_iff, validate_eq_error_iff,
      hsettled.host, hsettled.operator]
    constructor
    · rintro (⟨hblank, rfl⟩ | ⟨hblank, e, he, herr⟩)
      · exact .noHost hfile hblank
      · exact .operator hfile hblank he herr
    · intro hfails
      cases hfails with
      | unreadable h => subst h; cases hfile
      | malformed h hparse => subst h; exact absurd hfile (hparse base)
      | noHost h hblank => exact .inl ⟨hblank, rfl⟩
      | operator h hblank he herr =>
        cases hfile.symm.trans h
        exact .inr ⟨hblank, _, he, herr⟩

/-- A command runs with the settings that its layers leave. There are none just if the file cannot be
read or is no settings, if the host that is left is blank, or if the operator of the file is none;
then the command ends with that error and nothing is sent. -/
theorem layered_iff (file : SettingsFile) (get : String → Option String) (o : Overrides) :
    let loaded := layered file (.ofVariables get) o
    let host := ((o.host.or (get "KKM_HOST")).or file.layer.host).getD ""
    (∀ s, loaded = .ok s ↔ ∃ base, ofFile file = .ok base ∧ Settled file get o base s ∧
      Text.isBlankText s.connection.host = false ∧ ∀ e ∈ s.operator, ∃ x, e.operator = .ok x) ∧
    (∀ err, loaded = .error err ↔ Fails file host err) ∧
    ∀ (i : CommandLine.Invocation) (w : World), i.overrides = o →
      (∀ err, loaded = .error err → i.run file (.ofVariables get) w = (.error err, .start)) ∧
      ∀ s p t, loaded = .ok s → i.task.prepare s w .start = .ok (p, t) →
        i.run file (.ofVariables get) w = CommandLine.send p w (max i.repetitions 1) t := by
  intro loaded host
  refine ⟨fun s => layered_eq_ok_iff, fun err => layered_eq_error_iff, fun i w hi => ?_⟩
  subst hi
  refine ⟨fun err h => ?_, fun s p t h hp => ?_⟩
  · simp only [CommandLine.Invocation.run, show layered _ _ _ = _ from h]
    rfl
  · simp only [CommandLine.Invocation.run, show layered _ _ _ = _ from h, bind, Except.bind, hp]

end Settings
end Till
