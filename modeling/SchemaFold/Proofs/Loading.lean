import SchemaFold.Generate
import SchemaFold.Proofs.Bounds
import SchemaFold.Proofs.Growth
/-!
How loading a schema ends.

Loading goes from the configuration to a source, to a file, to a text, to a document and from there
to a model. It ends in an error at the first of these that cannot be had, and for each there is a
lemma that says in which one.

* `Config.options_result_eq_ok_iff`: the prefixes that a configuration may bind;
* `Config.load_of_source_error`, `Config.load_of_options_error`, `Config.load_of_remote`: what can
  be wrong with a configuration;
* `Config.load_of_unreadable`, `Config.load_of_oversized`, `Config.load_of_malformed`: with a file;
* `Config.Reads`: a configuration has led to a document;
* `Config.load_of_crowded`, `Config.load_of_notSchema`, `Config.load_of_fold_error`: what can be
  wrong with this;
* `Config.load_result_eq_ok_iff`: a model is loaded just if nothing is;
* `Config.nodup_names_of_load`: its constructs have different names.

What reads files and what reads URLs is arbitrary.
-/

namespace SchemaFold

open Xml (Document Place)

variable {table : RuleTable} {read : Files.Reader} {readUrl : Url.Reader} {path text : String}
  {e : Error}

/-! ### Sources -/

namespace Source

variable {limits : Limits}

/-- Nothing is loaded from a URL. -/
theorem load_remote (address : Url) (limits : Limits) (read : Files.Reader) :
    ((remote address).load limits read).result = .error (.unsupportedSource address.text) := rfl

theorem load_of_unreadable {fault : Files.Fault} (h : read path = .error fault) :
    ((file path).load limits read).result = .error (.resource path fault) := by
  rw [load, Act.result_bind_of_ok rfl]
  simp only [h]
  rfl

/-- A text passes up to and including the bound on its size in bytes. -/
theorem load_of_oversized (h : read path = .ok text) (hsize : limits.size < text.utf8ByteSize) :
    ((file path).load limits read).result =
      .error (.limitExceeded (.size text.utf8ByteSize limits.size)) := by
  rw [load, Act.result_bind_of_ok rfl]
  simp only [h, Limits.checkSize, if_pos hsize]
  rfl

theorem load_of_readable (h : read path = .ok text) (hsize : text.utf8ByteSize ≤ limits.size) :
    ((file path).load limits read).result = .ok text := by
  rw [load, Act.result_bind_of_ok rfl]
  simp only [h, Limits.checkSize, if_neg (Nat.not_lt.mpr hsize)]
  rfl

/-- **The texts that are loaded** are those of files that can be read and keep the bound. -/
theorem load_result_eq_ok_iff {source : Source} :
    (source.load limits read).result = .ok text ↔
      ∃ path, source = .file path ∧ read path = .ok text ∧ text.utf8ByteSize ≤ limits.size := by
  constructor
  · intro h
    cases source with
    | remote address => cases (load_remote address limits read).symm.trans h
    | file path =>
      rcases hread : read path with fault | found
      · cases (load_of_unreadable hread).symm.trans h
      · rcases Nat.lt_or_ge limits.size found.utf8ByteSize with hsize | hsize
        · cases (load_of_oversized hread hsize).symm.trans h
        · cases (load_of_readable hread hsize).symm.trans h
          exact ⟨path, rfl, hread, hsize⟩
  · rintro ⟨path, rfl, hread, hsize⟩
    exact load_of_readable hread hsize

end Source

/-! ### Texts -/

namespace Schema

variable {options : Options} {allowTypes : Bool} {sourceName : Option String}

/-- A text that is not XML: the error says where, and in which source. -/
theorem modelOfText_of_malformed {fault : Xml.Fault}
    (h : Document.read allowTypes text = .error fault) :
    (modelOfText table options allowTypes sourceName text).result =
      .error (.parse ⟨.malformed fault, some fault.position.text, sourceName⟩) := by
  refine Act.result_bind_of_error ?_
  rw [Schema.read, h]
  rfl

theorem modelOfText_of_document {document : Document}
    (h : Document.read allowTypes text = .ok document) :
    (modelOfText table options allowTypes sourceName text).result =
      (model table options document).result := by
  refine Act.result_bind_of_ok ?_
  rw [Schema.read, h]
  rfl

end Schema

/-! ### Configurations -/

namespace Config

variable {config : Config} {options : Options} {source : Source}

/-- The first prefix that is no name ends the run. -/
theorem options_of_invalidPrefix {pfx : String}
    (h : (Keyed.keys config.namespaces).find? (fun pfx => !Name.isNCName pfx) = some pfx) :
    config.options.result = .error (.namespaces (.invalidPrefix pfx)) := by
  rw [options]
  refine Act.result_bind_of_error ?_
  rw [bindings, h]
  rfl

/-- **What a configuration says of the fold**, if the prefixes that it binds are names. -/
theorem options_result_eq_ok_iff :
    config.options.result = .ok options ↔
      (∀ pfx ∈ Keyed.keys config.namespaces, Name.isNCName pfx = true) ∧
        options = ⟨config.duplicateKeys, config.missingIdentifier, config.limits,
          .ofList config.namespaces⟩ := by
  rcases hfind : (Keyed.keys config.namespaces).find? (fun pfx => !Name.isNCName pfx) with _ | pfx
  · have hbindings : config.bindings.result = .ok (.ofList config.namespaces) := by
      rw [bindings, hfind]
      exact Bindings.result_ofListReported config.namespaces
    have hnames : ∀ pfx ∈ Keyed.keys config.namespaces, Name.isNCName pfx = true := by
      simpa using List.find?_eq_none.mp hfind
    rw [Config.options, Act.result_bind_of_ok hbindings]
    show Except.ok _ = Except.ok options ↔ _
    rw [Except.ok.injEq, eq_comm]
    exact (and_iff_right hnames).symm
  · rw [options_of_invalidPrefix hfind]
    have hname : Name.isNCName pfx = false := by simpa using List.find?_some hfind
    refine iff_of_false nofun fun h => ?_
    rw [h.1 pfx (List.mem_of_find?_eq_some hfind)] at hname
    exact absurd hname (by decide)

/-- The bindings of the options are those that a user can make. -/
theorem reachable_of_options (h : config.options.result = .ok options) :
    options.bindings.Reachable := by
  obtain ⟨-, rfl⟩ := options_result_eq_ok_iff.mp h
  exact Bindings.reachable_ofList config.namespaces

/-! ### From a configuration to a text -/

/-- A configuration that names no source is not looked at any further. -/
theorem load_of_source_error (h : config.source readUrl = .error e) :
    (config.load table read readUrl).result = .error e :=
  Act.result_bind_of_error h

section
variable (hsource : config.source readUrl = .ok source)
include hsource

/-- Neither is one that names a source but has bindings that are not to be used. -/
theorem load_of_options_error (h : config.options.result = .error e) :
    (config.load table read readUrl).result = .error e := by
  rw [load, Act.result_bind_of_ok hsource]
  exact Act.result_bind_of_error h

variable (hoptions : config.options.result = .ok options)
include hoptions

/-- An error of the source is the error of loading. -/
theorem load_of_text_error (h : (source.load config.limits read).result = .error e) :
    (config.load table read readUrl).result = .error e := by
  rw [load, Act.result_bind_of_ok hsource, Act.result_bind_of_ok hoptions,
    Act.result_bind_of_ok rfl]
  exact Act.result_bind_of_error h

/-- What becomes of the text becomes of loading. -/
theorem load_of_text (h : (source.load config.limits read).result = .ok text) :
    (config.load table read readUrl).result =
      (Schema.modelOfText table options config.allowDtd config.sourceName text).result := by
  rw [load, Act.result_bind_of_ok hsource, Act.result_bind_of_ok hoptions,
    Act.result_bind_of_ok rfl, Act.result_bind_of_ok h]
  -- after the model there is only its size to report
  rcases hmodel : (Schema.modelOfText table options config.allowDtd config.sourceName text).result
    with e | made
  · exact Act.result_bind_of_error hmodel
  · rw [Act.result_bind_of_ok hmodel]
    rfl

end

section
variable (hoptions : config.options.result = .ok options)
include hoptions

theorem load_of_remote {address : Url} (hsource : config.source readUrl = .ok (.remote address)) :
    (config.load table read readUrl).result = .error (.unsupportedSource address.text) :=
  load_of_text_error hsource hoptions (Source.load_remote address config.limits read)

variable (hsource : config.source readUrl = .ok (.file path))
include hsource

theorem load_of_unreadable {fault : Files.Fault} (h : read path = .error fault) :
    (config.load table read readUrl).result = .error (.resource path fault) :=
  load_of_text_error hsource hoptions (Source.load_of_unreadable h)

theorem load_of_oversized (h : read path = .ok text)
    (hsize : config.limits.size < text.utf8ByteSize) :
    (config.load table read readUrl).result =
      .error (.limitExceeded (.size text.utf8ByteSize config.limits.size)) :=
  load_of_text_error hsource hoptions (Source.load_of_oversized h hsize)

theorem load_of_malformed (h : read path = .ok text)
    (hsize : text.utf8ByteSize ≤ config.limits.size) {fault : Xml.Fault}
    (hfault : Document.read config.allowDtd text = .error fault) :
    (config.load table read readUrl).result =
      .error (.parse ⟨.malformed fault, some fault.position.text, config.sourceName⟩) := by
  rw [load_of_text hsource hoptions (Source.load_of_readable h hsize),
    Schema.modelOfText_of_malformed hfault]

end

/-! ### From a text to a model -/

/-- A configuration leads to a document: it names a file, which can be read and is not too large,
and the text in it is XML. -/
structure Reads (config : Config) (read : Files.Reader) (readUrl : Url.Reader) (options : Options)
    (document : Document) : Prop where
  options : config.options.result = .ok options
  text : ∃ path text, config.source readUrl = .ok (.file path) ∧ read path = .ok text ∧
    text.utf8ByteSize ≤ config.limits.size ∧ Document.read config.allowDtd text = .ok document

section
variable {document : Document} (h : config.Reads read readUrl options document)
include h

/-- What becomes of the document becomes of loading. -/
theorem load_of_reads :
    (config.load table read readUrl).result =
      (Schema.modelOfRoot table options document).result := by
  obtain ⟨path, text, hsource, hread, hsize, hdocument⟩ := h.text
  rw [load_of_text hsource h.options (Source.load_of_readable hread hsize),
    Schema.modelOfText_of_document hdocument,
    Schema.model_eq_of_reachable (reachable_of_options h.options)]

/-- The first element with too many attributes is counted in the error. -/
theorem load_of_crowded {before after : List Place} {place : Place}
    (hplaces : document.places = before ++ place :: after)
    (hbefore : ∀ other ∈ before, other.attributes.length ≤ options.limits.attributes)
    (hplace : options.limits.attributes < place.attributes.length) :
    (config.load table read readUrl).result =
      .error (.limitExceeded (.attributes place.attributes.length options.limits.attributes)) := by
  have hattributes := Schema.checkAttributes_eq_error_iff.mpr
    ⟨before, place, after, hplaces, hbefore, hplace, rfl⟩
  rw [load_of_reads h, Schema.modelOfRoot, hattributes]
  rfl

variable (hattributes : ∀ place ∈ document.places,
  place.attributes.length ≤ options.limits.attributes)
include hattributes

theorem load_of_notSchema (hroot : document.root.name.isXsd "schema" = false) :
    (config.load table read readUrl).result = .error (Schema.notSchema document) := by
  rw [load_of_reads h, Schema.modelOfRoot, Schema.checkAttributes_eq_ok_iff.mpr hattributes]
  simp only [hroot]
  rfl

/-- What is left of the schema is the model, unless its fold ends in an error. -/
theorem load_of_schema (hroot : document.root.name.isXsd "schema" = true) :
    (config.load table read readUrl).result =
      (document.rootPlace.fold table options [] .empty).model.result := by
  rw [load_of_reads h, Schema.modelOfRoot, Schema.checkAttributes_eq_ok_iff.mpr hattributes]
  simp only [hroot]
  rfl

theorem load_of_fold_error (hroot : document.root.name.isXsd "schema" = true)
    (hfold : (document.rootPlace.fold table options [] .empty).result = .error e) :
    (config.load table read readUrl).result = .error e := by
  rw [load_of_schema h hattributes hroot, Run.model, hfold]
  rfl

end

/-- **A model is loaded just if nothing is wrong on the way.** It is what the fold of the root
leaves. -/
theorem load_result_eq_ok_iff {made : Model} :
    (config.load table read readUrl).result = .ok made ↔
      ∃ options document, config.Reads read readUrl options document ∧
        (∀ place ∈ document.places, place.attributes.length ≤ options.limits.attributes) ∧
        document.root.name.isXsd "schema" = true ∧
        (document.rootPlace.fold table options [] .empty).result = .ok () ∧
        made = ⟨(document.rootPlace.fold table options [] .empty).context⟩ := by
  constructor
  · intro h
    rcases hsource : config.source readUrl with e | source
    · cases (load_of_source_error hsource).symm.trans h
    rcases hoptions : config.options.result with e | options
    · cases (load_of_options_error hsource hoptions).symm.trans h
    rcases htext : (source.load config.limits read).result with e | text
    · cases (load_of_text_error hsource hoptions htext).symm.trans h
    obtain ⟨path, rfl, hread, hsize⟩ := Source.load_result_eq_ok_iff.mp htext
    rcases hdocument : Document.read config.allowDtd text with fault | document
    · cases (load_of_malformed hoptions hsource hread hsize hdocument).symm.trans h
    have hreads : config.Reads read readUrl options document :=
      ⟨hoptions, path, text, hsource, hread, hsize, hdocument⟩
    -- the document has a model, so that none of its elements has too many attributes
    have hroot := (load_of_reads hreads).symm.trans h
    rw [Schema.modelOfRoot] at hroot
    rcases hattributes : Schema.checkAttributes options.limits document with e | _
    · rw [hattributes] at hroot
      cases hroot
    have hplaces := Schema.checkAttributes_eq_ok_iff.mp hattributes
    rcases hschema : document.root.name.isXsd "schema" with _ | _
    · cases (load_of_notSchema hreads hplaces hschema).symm.trans h
    obtain ⟨hfold, rfl⟩ :=
      Run.model_result_eq_ok.mp ((load_of_schema hreads hplaces hschema).symm.trans h)
    exact ⟨options, document, hreads, hplaces, hschema, hfold, rfl⟩
  · rintro ⟨options, document, hreads, hplaces, hschema, hfold, rfl⟩
    rw [load_of_schema hreads hplaces hschema]
    exact Run.model_result_eq_ok.mpr ⟨hfold, rfl⟩

end Config

/-! ### Names -/

theorem Context.contexts_sublist_keys (c : Context) : (c.contexts.map (·.1)).Sublist c.keys := by
  induction c with
  | empty => exact .slnil
  | scalar key text rest ih => exact ih.cons key
  | nested key inner rest _ ih => exact ih.cons_cons key

/-- No two constructs of a model that has been loaded have the same name. -/
theorem Config.nodup_names_of_load {config : Config} {made : Model}
    (h : (config.load table read readUrl).result = .ok made) : made.names.Nodup := by
  obtain ⟨options, document, -, -, -, -, rfl⟩ := load_result_eq_ok_iff.mp h
  -- the root is folded into an empty context, which has no key twice, and so has what is left
  have hdistinct : (document.rootPlace.fold table options [] .empty).context.Distinct :=
    (document.rootPlace.fold_grows .empty).distinct trivial
  exact (Context.contexts_sublist_keys _).nodup hdistinct.nodup_keys

namespace Sample

/-- A schema with a type, an element and a group, whose name is none that a program may see. -/
def declarations : String :=
  "<xs:schema xmlns:xs=\"http://www.w3.org/2001/XMLSchema\"><xs:complexType name=\"A\"/>" ++
    "<xs:element name=\"b\" type=\"A\"/><xs:group name=\"c:\"/></xs:schema>"

/-- The only file that there is. -/
def shelf : Files.Reader := fun path =>
  if path = "a.xsd" then .ok declarations else .error .notFound

/-- A configuration that names it. -/
def stored : Config := { Config.standard with schemaFile := some "a.xsd" }

/-- Its model. -/
def declared : Model :=
  ⟨.nested "A" .empty (.nested "b" (.scalar "type" "A" .empty) (.nested "c:" .empty .empty))⟩

/-- The model is what is loaded. -/
theorem load_stored : (stored.load .standard shelf).result = .ok declared := by decide +kernel

end Sample

end SchemaFold
