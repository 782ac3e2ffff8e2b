import RecordTypes.Proofs.Generation.Identifier
import RecordTypes.Proofs.Generation.Intact
import RecordTypes.Proofs.Generation.Text
import RecordTypes.Proofs.Report.Agreement
import RecordTypes.Proofs.Target.Lookup

/-! The lookups of a generation against what it was made for. They are read from its lines: the ids
of the fields table by table, the ids of the tables, and the types of the tables by their ids. -/

namespace RecordTypes

/-! ## Selected tables -/

theorem selectIf_eq_filter {tables selected : List Table} {requested : Option (List String)}
    (h : selectIf tables requested = .ok selected) :
    ∃ isAsked : String → Bool, selected = tables.filter fun table => isAsked table.id := by
  cases requested with
  | none =>
    cases h
    exact ⟨fun _ => true, by simp⟩
  | some requests =>
    simp only [selectIf, select] at h
    split at h
    · cases h
      exact ⟨_, rfl⟩
    · cases h

theorem id_ne_of_unselected {tables selected : List Table} {requested : Option (List String)}
    (h : selectIf tables requested = .ok selected) {table : Table} (htable : table ∈ tables)
    (hout : table ∉ selected) : ∀ other ∈ selected, other.id ≠ table.id := by
  obtain ⟨isAsked, rfl⟩ := selectIf_eq_filter h
  intro other hother hid
  refine hout (List.mem_filter.mpr ⟨htable, ?_⟩)
  rw [← hid]
  exact (List.mem_filter.mp hother).2

/-! ## Lookups of an assembly -/

namespace Target

/-- The lines up to the lookup of types, which comes last. -/
def linesToTypes (target : Target) (base : Base) (tables : List Table) : List String :=
  target.header base ++ target.sharedBlock (allFields tables) ++ target.tableBlocks true tables ++
    target.dialect.lookup tableIdLookup "str" "str" true
      (tables.map fun table => (table.name, table.id))

theorem lines_assemble (target : Target) (base : Base) (tables : List Table) :
    (assemble target true base tables).lines =
      target.linesToTypes base tables ++ target.tableTypeLines tables := by
  simp only [assemble_eq, lookupBlock, if_pos, tableLookupLines, linesToTypes, List.append_assoc]

theorem nodup_topNames {options : GenerationOptions} {selected : List Table}
    (h : (options.identifiers selected).Nodup) (base : Base) :
    (options.target.topNames
      (assemble options.target options.fieldIds base selected).lines).Nodup := by
  have hnames := (nodup_declaredNames h base).sublist (List.sublist_append_right _ _)
  rw [options.target.topNames_eq_filter _ "", ← declaredNames]
  exact hnames.sublist List.filter_sublist

theorem typeName_ne_tableTypeLookup {target : Target} {base : Base} {tables : List Table}
    (h : (target.topNames (assemble target true base tables).lines).Nodup) {table : Table}
    (htable : table ∈ tables) : target = .interface → table.typeName ≠ tableTypeLookup := by
  rintro rfl hname
  rw [topNames_assemble] at h
  have htype : table.typeName ∈ interface.topTableNames true table := by
    simp [topTableNames, typeNames]
  have hlookup : table.typeName ∈ interface.lookupIdentifiers := by
    rw [hname]
    decide
  have hbefore := List.mem_append_right
    ((interface.written (allFields tables)).flatMap fun declaration => declaration.identifiers)
    (List.mem_flatMap.mpr ⟨table, htable, htype⟩)
  exact (List.nodup_append.mp h).2.2 _ hbefore _ hlookup rfl

theorem hasLookups_linesToTypes {target : Target} {base : Base} {tables : List Table}
    (h : (target.topNames (assemble target true base tables).lines).Nodup) :
    target.HasLookups (target.linesToTypes base tables)
      (tables.map fieldLookup ++ [idLookup tables]) := by
  have hheader := HasLookups.of_none (target.lookupName?_header base)
  have hshared : target.HasLookups (target.sharedBlock (allFields tables)) [] := by
    refine HasLookups.of_none fun line hline => ?_
    obtain ⟨declaration, hwritten, hline⟩ := List.mem_flatMap.mp hline
    exact target.lookupName?_sharedLines declaration (List.mem_filter.mp hwritten).1 line hline
  have htables : target.HasLookups (target.tableBlocks true tables) (tables.map fieldLookup) := by
    rw [List.map_eq_flatMap]
    exact HasLookups.flatMap fun table htable =>
      hasLookups_tableLines (typeName_ne_tableTypeLookup h htable)
  exact ((hheader.append hshared).append htables).append (target.hasLookups_tableIdLines tables)

theorem recordLines_infix_linesToTypes (target : Target) (base : Base) {tables : List Table}
    {table : Table} (htable : table ∈ tables) :
    target.recordLines table <:+: target.linesToTypes base tables := by
  obtain ⟨before, after, rfl⟩ := List.append_of_mem htable
  refine ⟨target.header base ++ target.sharedBlock (allFields (before ++ table :: after)) ++
      target.tableBlocks true before ++ target.enumerationBlock table,
    target.fieldLookupLines table ++ target.tableBlocks true after ++
      target.dialect.lookup tableIdLookup "str" "str" true
        ((before ++ table :: after).map fun table => (table.name, table.id)), ?_⟩
  simp [linesToTypes, tableBlocks, tableLines]

theorem recordName_mem_topNames (target : Target) (table : Table) :
    target.recordName table ∈ target.topNames (target.recordLines table) := by
  have hnames := (target.declares_record table).names_eq
  have hname := isTopName_of_isName (target.isName_recordName table)
  rw [target.topNames_eq_filter _ "", ← declaredNames, hnames, List.mem_filter]
  refine ⟨List.mem_append_left _ ?_, hname⟩
  cases target <;> simp [typeNames, recordName]

end Target

/-- A lookup of the ids of a table's fields by their names, in their order. -/
structure Table.ListedIn (table : Table) (lookup : ReadLookup) : Prop where
  name : lookup.name = table.fieldLookupName
  entries : List.Forall₂ (fun field entry => ∃ name id, field.heading.name = some name ∧
    field.heading.id = some id ∧ entry = ⟨name, .text id⟩) table.fields lookup.entries

/-- An entry that leads from the id of a table to a name that the lines before declare, as a part of
the record of that table. -/
structure Target.LinksTo (target : Target) (before : List String) (table : Table)
    (entry : LookupEntry) : Prop where
  entry_eq : ∃ name, entry = ⟨table.id, .code name⟩ ∧
    name ∈ target.topNames (target.recordLines table)
  earlier : target.recordLines table <:+: before

theorem Table.listedIn_fieldLookup {raw : Json} {table : Table}
    (h : readTable raw = .value table) : table.ListedIn (Target.fieldLookup table) where
  name := rfl
  entries := by
    rw [Target.fieldLookup, List.forall₂_map_right_iff, List.forall₂_same]
    intro field hfield
    have hidentified := isIdentified_of_readTable h field hfield
    exact ⟨field.label, field.heading.id.getD "", Field.name_eq_label hidentified,
      Field.id_eq_getD hidentified, rfl⟩

theorem Target.exists_textLines {target : Target} {base : Base} {tables : List Table}
    (h : target.IdsFit base tables) (fieldIds : Bool) :
    ∃ kept blanks, (assemble target fieldIds base tables).lines = kept ++ blanks ∧
      (∀ line ∈ blanks, line = "") ∧
      textLines (assemble target fieldIds base tables).text = kept ++ [""] := by
  have hlines : ∀ line ∈ (assemble target fieldIds base tables).lines, IsUnbroken line.toList :=
    fun line hline =>
      ((target.forall_isIntact_iff fieldIds base tables).mpr h line hline).unbroken
  refine textLines_text ?_ hlines
  rw [assemble_eq]
  simp [header]

theorem Target.readLookups_text {target : Target} {base : Base} {tables : List Table}
    (h : target.IdsFit base tables) (fieldIds : Bool) :
    target.readLookups (textLines (assemble target fieldIds base tables).text) =
      target.readLookups (assemble target fieldIds base tables).lines := by
  obtain ⟨kept, blanks, hkept, hblanks, htext⟩ := Target.exists_textLines h fieldIds
  rw [htext, hkept, target.readLookups_blanks kept hblanks,
    target.readLookups_blanks kept (by simp)]

/-- The lookups that are read from a text with lookups cover the selected tables and no others: of
the fields table by table, of the ids of the tables by their names and of their types by the ids,
all in the order of the tables. A type goes by a name that is declared once, before, in the record
of its table. -/
theorem lookups_of_generate {base : Base} {tables : List Table} {options : GenerationOptions}
    {text : String} (hread : ∀ table ∈ tables, ∃ raw, readTable raw = .value table)
    (hids : options.fieldIds = true) (h : generate base tables options = .ok text) :
    ∃ (selected : List Table) (before after : List String) (ofFields : List ReadLookup)
      (ids types : List LookupEntry),
      selectIf tables options.requested = .ok selected ∧ selected.Sublist tables ∧
      text = (assemble options.target true base selected).text ∧
      (assemble options.target true base selected).lines = before ++ after ∧
      (options.target.topNames (before ++ after)).Nodup ∧
      options.target.readLookups (before ++ after) =
        ofFields ++ [⟨tableIdLookup, ids⟩, ⟨options.target.typeLookup, types⟩] ∧
      options.target.readLookups after = [⟨options.target.typeLookup, types⟩] ∧
      (options.target.IdsFit base selected →
        options.target.readLookups (textLines text) =
          ofFields ++ [⟨tableIdLookup, ids⟩, ⟨options.target.typeLookup, types⟩]) ∧
      List.Forall₂ Table.ListedIn selected ofFields ∧
      ids = selected.map (fun table => ⟨table.name, .text table.id⟩) ∧
      List.Forall₂ (options.target.LinksTo before) selected types ∧
      ∀ table ∈ tables, table ∉ selected →
        (∀ entry ∈ ids, entry.value ≠ .text table.id) ∧ ∀ entry ∈ types, entry.key ≠ table.id := by
  obtain ⟨selected, hselect, htext, hnodup⟩ := generate_eq_ok h
  have hnames := Target.nodup_topNames hnodup base
  rw [hids] at htext hnames
  obtain ⟨isAsked, hfilter⟩ := selectIf_eq_filter hselect
  have hlines := options.target.lines_assemble base selected
  have hbefore := Target.hasLookups_linesToTypes hnames
  have hafter := options.target.hasLookups_tableTypeLines selected
  have hall := (hbefore.append hafter).read_eq
  rw [List.append_assoc] at hall
  refine ⟨selected, options.target.linesToTypes base selected,
    options.target.tableTypeLines selected, selected.map Target.fieldLookup,
    (Target.idLookup selected).entries, (options.target.recordLookup selected).entries, hselect,
    ?_, htext, hlines, hlines ▸ hnames, hall, hafter.read_eq, fun hfit => ?_, ?_, rfl, ?_, ?_⟩
  · rw [hfilter]
    exact List.filter_sublist
  · rw [htext, Target.readLookups_text hfit, hlines]
    exact hall
  · rw [List.forall₂_map_right_iff, List.forall₂_same]
    intro table htable
    rw [hfilter] at htable
    obtain ⟨raw, hraw⟩ := hread table (List.mem_filter.mp htable).1
    exact Table.listedIn_fieldLookup hraw
  · rw [Target.recordLookup, List.forall₂_map_right_iff, List.forall₂_same]
    intro table htable
    exact ⟨⟨_, rfl, options.target.recordName_mem_topNames table⟩,
      options.target.recordLines_infix_linesToTypes base htable⟩
  · intro table htable hout
    have hother := id_ne_of_unselected hselect htable hout
    constructor
    · intro entry hentry
      obtain ⟨other, hmem, rfl⟩ := List.mem_map.mp hentry
      exact fun hid => hother other hmem (LookupValue.text.inj hid)
    · intro entry hentry
      obtain ⟨other, hmem, rfl⟩ := List.mem_map.mp hentry
      exact hother other hmem

def venues : Table where
  id := "tblVenues"
  name := "Venues"
  primaryFieldId := "fldVenue"
  description := none
  fields := []
  views := []

theorem readTable_venues : readTable (.obj [("id", .str "tblVenues"), ("name", .str "Venues"),
    ("primaryFieldId", .str "fldVenue"), ("fields", .arr [])]) = .value venues := rfl

def partyBase : Base := ⟨"appParty", "Party", .create⟩

def guestOptions : GenerationOptions := ⟨.typescript, .schemas, true, some ["tblGuests"]⟩

theorem generate_guests :
    generate partyBase [guests, venues] guestOptions =
      .ok (assemble .zod true partyBase [guests]).text :=
  generate_of_nodup partyBase _ guestOptions rfl (by decide +kernel)

/-- Of two tables the one that was asked for is looked up. -/
theorem lookups_of_guests :
    (∀ table ∈ [guests, venues], ∃ raw, readTable raw = .value table) ∧
    guestOptions.fieldIds = true ∧
    generate partyBase [guests, venues] guestOptions =
      .ok (assemble .zod true partyBase [guests]).text ∧
    ∃ ofFields types,
      Target.zod.readLookups (assemble .zod true partyBase [guests]).lines = ofFields ++
        [⟨tableIdLookup, [⟨"Guests", .text "tblGuests"⟩]⟩, ⟨tableSchemaLookup, types⟩] ∧
      List.Forall₂ Table.ListedIn [guests] ofFields ∧ ∀ entry ∈ types, entry.key ≠ "tblVenues" := by
  have hread : ∀ table ∈ [guests, venues], ∃ raw, readTable raw = .value table :=
    List.forall_mem_cons.mpr ⟨⟨_, readTable_guests⟩,
      List.forall_mem_singleton.mpr ⟨_, readTable_venues⟩⟩
  obtain ⟨selected, before, after, ofFields, ids, types, hselect, -, -, hlines, -, hall, -, -,
    hfields, rfl, -, hout⟩ := lookups_of_generate hread rfl generate_guests
  have hguests : selectIf [guests, venues] (some ["tblGuests"]) = .ok [guests] := rfl
  cases hguests.symm.trans hselect
  have hout := hout venues (by simp) fun hmem =>
    absurd (congrArg Table.id (List.mem_singleton.mp hmem)) (by decide)
  rw [← hlines] at hall
  exact ⟨hread, rfl, generate_guests, ofFields, types, hall, hfields, hout.2⟩

end RecordTypes
