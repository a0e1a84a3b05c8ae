import Till.Proofs.Details.Customer
import Till.Proofs.Toml.Document
import Till.Settings.Document

/-!
# Saved settings

What settings are saved as is a document of sections with bare keys (`Settings.sections_ok`), and
each part of it is read back from its section. Main statement: the document that is saved is read
back as the settings, the blank texts of their customer apart, and these answer the same and are
saved as the same document (`Settings.save_restores`).
-/

namespace Till.Settings
variable {s : Settings}

open Toml

/-! ### Sections -/

theorem connectionSection_ok (c : Connection) : (connectionSection c).Ok :=
  .of_sublist (show IsBare "connection" by decide) (.refl ["host", "secret", "serial"])
    (by decide) (by decide)

theorem transportSection_ok (verifyTls : Bool) : (transportSection verifyTls).Ok :=
  .of_sublist (show IsBare "transport" by decide) (.refl ["verify_tls"]) (by decide) (by decide)

theorem operatorSection_ok (o : OperatorEntry) : (operatorSection o).Ok := by
  have hkeys : ((operatorSection o).fields.map (·.1)).Sublist ["name", "inn"] := by
    obtain ⟨name, inn⟩ := o
    cases inn with
    | none => exact .cons_cons _ (.cons _ .slnil)
    | some inn => exact .refl _
  exact .of_sublist (show IsBare "operator" by decide) hkeys (by decide) (by decide)

theorem customerSection_ok (c : Customer) : (customerSection c).Ok := by
  have hkeys : ((customerSection c).fields.map (·.1)).Sublist customerKeys := by
    rw [customerSection, List.map_map]
    exact sublist_writtenTexts c.texts
  exact .of_sublist (show IsBare "customer" by decide) hkeys (by decide) (by decide)

theorem ok_of_mem_sections {x : Section} (h : x ∈ s.sections) : x.Ok := by
  simp only [sections, List.mem_cons, List.mem_append, Option.mem_toList,
    Option.map_eq_some_iff] at h
  rcases h with rfl | rfl | ⟨o, -, rfl⟩ | ⟨c, -, rfl⟩
  · exact connectionSection_ok _
  · exact transportSection_ok _
  · exact operatorSection_ok o
  · exact customerSection_ok c

theorem names_sections (s : Settings) :
    (s.sections.map Section.name).Sublist ["connection", "transport", "operator", "customer"] := by
  obtain ⟨connection, verifyTls, operator, customer⟩ := s
  have hoptional : (((operator.map operatorSection).toList ++
      (customer.map customerSection).toList).map Section.name).Sublist ["operator", "customer"] := by
    cases operator with
    | none =>
      cases customer with
      | none => exact .cons _ (.cons _ .slnil)
      | some c => exact .cons _ (.refl _)
    | some o =>
      cases customer with
      | none => exact .cons_cons _ (.cons _ .slnil)
      | some c => exact .refl _
  exact .cons_cons _ (.cons_cons _ hoptional)

theorem nodup_sections (s : Settings) : (s.sections.map Section.name).Nodup :=
  .sublist s.names_sections (by decide)

/-! ### Parts -/

theorem connectionOf?_section (c : Connection) :
    connectionOf? (some (connectionSection c).toToml) = some c := by
  rw [connectionOf?, (connectionSection_ok c).columns?_toToml]
  rfl

theorem verifyTlsOf?_section (verifyTls : Bool) :
    verifyTlsOf? (some (transportSection verifyTls).toToml) = some verifyTls := by
  rw [verifyTlsOf?, (transportSection_ok verifyTls).columns?_toToml]
  rfl

theorem operatorOf?_section (o : OperatorEntry) :
    operatorOf? (operatorSection o).toToml = some o := by
  rw [operatorOf?, (operatorSection_ok o).columns?_toToml]
  obtain ⟨name, inn⟩ := o
  cases inn <;> rfl

theorem mapM_optionalText? (texts : List (Option String)) :
    (texts.map fun t => t.map Toml.string).mapM optionalText? = some texts := by
  induction texts with
  | nil => rfl
  | cons t texts ih =>
    rw [List.map_cons, List.mapM_cons, ih]
    cases t <;> rfl

theorem customerOf?_section (c : Customer) :
    customerOf? (customerSection c).toToml = some c.withoutBlanks := by
  have hlookup (key : String) : (customerSection c).entries.lookup key =
      ((c.texts.lookup key).join.filter (· ≠ "")).map Toml.string := by
    rw [Section.entries, customerSection, List.map_map]
    exact lookup_writtenTexts c.nodup_texts Toml.string key
  have hcolumns : (customerSection c).toToml.columns? customerKeys =
      some ((c.texts.map fun t => t.2.filter (· ≠ "")).map fun t => t.map Toml.string) := by
    rw [(customerSection_ok c).columns?_toToml]
    simp only [hlookup]
    rfl
  rw [customerOf?, hcolumns]
  simp only [Option.bind_eq_bind, Option.bind_some, mapM_optionalText?]
  rfl

theorem partOf?_map {α β : Type} {of? : Toml → Option β} {f : α → Toml} {g : α → β}
    (h : ∀ a, of? (f a) = some (g a)) (part : Option α) :
    partOf? of? (part.map f) = some (part.map g) := by
  cases part with
  | none => rfl
  | some a => exact congrArg (Option.map some) (h a)

/-! ### The document -/

/-- The settings without the texts of the customer that are not written. -/
def withoutBlanks (s : Settings) : Settings :=
  { s with customer := s.customer.map Customer.withoutBlanks }

/-- The tables of the sections by their names. -/
def tables (s : Settings) : List (String × Toml) :=
  s.sections.map fun x => (x.name, x.toToml)

theorem columns_tables (s : Settings) :
    ["connection", "transport", "operator", "customer"].map (fun n => s.tables.lookup n) =
      [some (connectionSection s.connection).toToml, some (transportSection s.verifyTls).toToml,
        s.operator.map fun o => (operatorSection o).toToml,
        s.customer.map fun c => (customerSection c).toToml] := by
  obtain ⟨connection, verifyTls, operator, customer⟩ := s
  cases operator <;> cases customer <;> rfl

theorem ofToml?_tables (s : Settings) :
    ofToml? (.table .header (Entries.ofList s.tables)) = some s.withoutBlanks := by
  have hnodup : (s.tables.map (·.1)).Nodup := by
    rw [tables, List.map_map]
    exact s.nodup_sections
  rw [ofToml?, columns?_ofList hnodup, columns_tables]
  simp only [connectionOf?_section, verifyTlsOf?_section, partOf?_map operatorOf?_section,
    partOf?_map customerOf?_section, Option.bind_eq_bind, Option.bind_some, Option.map_id']
  rfl

/-- The document of settings is read back as the settings without blank texts. -/
theorem parse_text (s : Settings) : parse s.text = .ok s.withoutBlanks := by
  have hparse : Toml.parse? s.text = some (.table .header (Entries.ofList s.tables)) :=
    parse?_writtenSections (fun _ => ok_of_mem_sections) s.nodup_sections
  rw [parse, hparse, Option.bind_some, ofToml?_tables]

/-! ### Answers -/

theorem isEmpty_withoutBlanks (c : Customer) : c.withoutBlanks.isEmpty = c.isEmpty := by
  have hall (t : Option String) : (t.filter (· ≠ "")).all (· == "") = t.all (· == "") := by
    cases t with
    | none => rfl
    | some text => by_cases h : text = "" <;> simp [Option.filter, h]
  rw [Customer.isEmpty, Customer.isEmpty, Customer.texts_withoutBlanks, List.all_map]
  exact congrArg (List.all c.texts) (funext fun t => hall t.2)

theorem customer?_withoutBlanks (s : Settings) :
    s.withoutBlanks.customer? = s.customer?.map Customer.withoutBlanks := by
  show (s.customer.map Customer.withoutBlanks).filter _ = (s.customer.filter _).map _
  cases s.customer with
  | none => rfl
  | some c =>
    rw [Option.map_some, Option.filter_some, Option.filter_some, isEmpty_withoutBlanks]
    cases c.isEmpty <;> rfl

theorem toJson_withoutBlanks (c : Customer) : c.withoutBlanks.toJson = c.toJson := by
  rw [Customer.toJson, Customer.toJson, c.fields_withoutBlanks]

theorem defaults_withoutBlanks (s : Settings) : s.withoutBlanks.defaults = s.defaults := by
  rw [defaults, defaults, customer?_withoutBlanks, Option.map_map]
  simp only [Function.comp_def, toJson_withoutBlanks]
  rfl

theorem text_withoutBlanks (s : Settings) : s.withoutBlanks.text = s.text := by
  have hsection (c : Customer) : customerSection c.withoutBlanks = customerSection c := by
    rw [customerSection, Customer.texts_withoutBlanks, writtenTexts_filter, customerSection]
  have hsections : s.withoutBlanks.sections = s.sections := by
    show _ :: _ :: (_ ++ ((s.customer.map _).map customerSection).toList) = _
    rw [Option.map_map]
    simp only [Function.comp_def, hsection]
    rfl
  rw [text, text, hsections]

/-- What settings are after they have been saved and read back. -/
structure Restored (s r : Settings) : Prop where
  connection : r.connection = s.connection
  verifyTls : r.verifyTls = s.verifyTls
  operator : r.operator = s.operator
  /-- Texts of the customer that are empty are missing afterwards. -/
  customer : r.customer = s.customer.map Customer.withoutBlanks
  checked : r.validate = s.validate
  checkedOperator : r.operator? = s.operator?
  knownCustomer : r.customer? = s.customer?.map Customer.withoutBlanks
  /-- So the customer is there if it was, and is written as before. -/
  customerJson : r.customer?.map Customer.toJson = s.customer?.map Customer.toJson
  defaults : r.defaults = s.defaults
  device : r.device = s.device
  server : r.server = s.server

/-- The document that settings are saved as is read back as the settings, whatever their texts are,
except that empty texts of the customer are missing then. All answers stay the same, and so does the
document that is saved next. -/
theorem save_restores (s : Settings) :
    ∃ text r, s.save .free = .ok text ∧ parse text = .ok r ∧ Restored s r ∧
      r.save .free = .ok text := by
  refine ⟨s.text, s.withoutBlanks, rfl, s.parse_text, ?_, congrArg Except.ok s.text_withoutBlanks⟩
  exact {
    connection := rfl
    verifyTls := rfl
    operator := rfl
    customer := rfl
    checked := rfl
    checkedOperator := rfl
    knownCustomer := s.customer?_withoutBlanks
    customerJson := by
      rw [customer?_withoutBlanks, Option.map_map]
      simp only [Function.comp_def, toJson_withoutBlanks]
    defaults := s.defaults_withoutBlanks
    device := rfl
    server := rfl }

end Till.Settings
