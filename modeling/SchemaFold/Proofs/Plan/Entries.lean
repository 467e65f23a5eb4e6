import SchemaFold.Proofs.Context.Written
import SchemaFold.Proofs.Elements
import SchemaFold.Proofs.Write
/-!
Plans that write entries to a context, one after the other.

Texts of rules and nested contexts are both refused if something is in their way, though not by the
same test: a text only gives way to a nested context, and a nested context to anything. All the same
it can be said of two entries alone whether they are in each other's way, whichever of them is
first.

* `Plan.Entry`: a text, or a nested context with a plan for what is inside;
* `Plan.Entry.Fits`, `Plan.Entry.Compatible`: an entry for which a context has room, and two entries
  that have room beside each other;
* `Plan.HaveRoom`: entries that fit and are compatible;
* `Plan.exec_ofEntries`: these are all written, and so are any entries that may replace others;
* `Plan.error_ofEntries`, `Plan.exists_first_error`: where entries must not be replaced, the first
  one without room is a duplicate key;
* `Plan.result_ofEntries_eq_ok`: entries come to their end in no other case;
* `Plan.pairwise_compatible_iff`: what compatible entries are, in whatever order they come.
-/

namespace SchemaFold.Plan

/-- One thing to write: a text of a rule, or a nested context with a plan for what is inside. -/
inductive Entry
  | text (site : Site) (key text : String)
  | construct (site : Site) (key : String) (inner : Plan)

namespace Entry

/-- The element that the entry is written for. -/
def site : Entry → Site
  | .text site _ _ => site
  | .construct site _ _ => site

/-- The key that the entry is written under. -/
def key : Entry → String
  | .text _ key _ => key
  | .construct _ key _ => key

/-- The plan that writes the entry, and nothing else. -/
def plan : Entry → Plan
  | .text site key found => .scalar site key found .done
  | .construct site key inner => .nested site key inner .done

/-- What stands under the key once the entry is written. -/
def value (replaces : Bool) : Entry → Value
  | .text _ _ found => .scalar found
  | .construct _ _ inner => .context (inner.exec replaces .empty).context

/-- The key with what stands under it. -/
def written (replaces : Bool) (entry : Entry) : String × Value :=
  (entry.key, entry.value replaces)

/-- What is inside the entry comes to its end. -/
def Fills (replaces : Bool) : Entry → Prop
  | .text .. => True
  | .construct _ _ inner => (inner.exec replaces .empty).result = .ok ()

/-- The entry is a text. -/
def IsText : Entry → Prop
  | .text .. => True
  | .construct .. => False

/-- Nothing in a context is in the way of the entry: nothing is under its key, or a text where the
entry is a text too. -/
def Fits (c : Context) (entry : Entry) : Prop :=
  ∀ found, c.get? entry.key = some found → found.context? = none ∧ entry.IsText

/-- The entries are not in each other's way: their keys are different, or both are texts. -/
def Compatible (first second : Entry) : Prop :=
  first.key = second.key → first.IsText ∧ second.IsText

variable {replaces : Bool} {c : Context} {entry other : Entry}

theorem fits_text {site : Site} {key found : String} :
    (text site key found).Fits c ↔ c.context? key = none := by
  rw [Context.context?, Option.bind_eq_none_iff]
  exact forall₂_congr fun _ _ => and_iff_left trivial

theorem fits_construct {site : Site} {key : String} {inner : Plan} :
    (construct site key inner).Fits c ↔ c.get? key = none := by
  constructor
  · intro h
    rcases hfound : c.get? key with _ | found
    · rfl
    · exact (h found hfound).2.elim
  · intro hfree found hfound
    exact absurd (hfree.symm.trans hfound) (by simp)

theorem context?_value_eq_none_iff : (entry.value replaces).context? = none ↔ entry.IsText := by
  cases entry with
  | text site key found => exact iff_of_true rfl trivial
  | construct site key inner => exact iff_of_false (by simp [value, Value.context?]) id

/-- **After one entry there is room for another** just if there was before and the two are
compatible. -/
theorem fits_put (h : entry.Fits c) :
    other.Fits (c.put entry.key (entry.value replaces)) ↔
      other.Fits c ∧ entry.Compatible other := by
  rw [Fits, Compatible, Context.get?_put]
  by_cases hkey : entry.key = other.key
  · rw [if_pos hkey]
    constructor
    · -- the entry itself is what stands under the key now
      intro hput
      obtain ⟨hvalue, hother⟩ := hput _ rfl
      have hentry : entry.IsText := context?_value_eq_none_iff.mp hvalue
      refine ⟨fun found hfound => ?_, fun _ => ⟨hentry, hother⟩⟩
      exact ⟨(h found (hkey ▸ hfound)).1, hother⟩
    · rintro ⟨-, hcompatible⟩ found hfound
      obtain ⟨hentry, hother⟩ := hcompatible hkey
      obtain rfl := Option.some.inj hfound
      exact ⟨context?_value_eq_none_iff.mpr hentry, hother⟩
  · rw [if_neg hkey]
    exact ⟨fun hfits => ⟨hfits, fun heq => absurd heq hkey⟩, fun hboth => hboth.1⟩

/-! ### Single entries -/

/-- An entry that is not refused is written. -/
theorem exec_plan_of_fits (h : replaces = true ∨ entry.Fits c) (hfills : entry.Fills replaces) :
    (entry.plan.exec replaces c).result = .ok () ∧
      (entry.plan.exec replaces c).context = c.put entry.key (entry.value replaces) := by
  cases entry with
  | text site key found =>
    have hroom : replaces = true ∨ c.context? (key, found).1 = none := h.imp_right fits_text.mp
    obtain ⟨events, hwrite⟩ := Fold.writeScalar_eq_report hroom site
    rw [plan, exec, hwrite]
    exact ⟨rfl, rfl⟩
  | construct site key inner =>
    have hroom : replaces = true ∨ c.get? key = none := h.imp_right fits_construct.mp
    have hinner : (inner.exec replaces .empty).result = .ok () := hfills
    obtain ⟨events, hnest⟩ := Fold.nest_eq_under hroom site (inner.exec replaces)
    have hok : ((inner.exec replaces .empty).under c key events).result = .ok () := hinner
    rw [plan, exec, hnest, Run.andThen_of_ok hok]
    exact ⟨rfl, rfl⟩

/-- An entry that something is in the way of is a duplicate, unless it may replace this. -/
theorem exec_plan_of_not_fits (h : ¬ entry.Fits c) :
    entry.plan.exec false c =
      .fail c (.duplicateKey entry.key entry.site.element entry.site.location) := by
  cases entry with
  | text site key found =>
    have htaken : c.context? (key, found).1 ≠ none := fun hfree => h (fits_text.mpr hfree)
    rw [plan, exec, Fold.writeScalar_of_taken htaken, if_neg Bool.false_ne_true, Run.fail_andThen]
    rfl
  | construct site key inner =>
    have htaken : c.get? key ≠ none := fun hfree => h (fits_construct.mpr hfree)
    rw [plan, exec, Fold.nest_of_taken htaken, if_neg Bool.false_ne_true, Run.fail_andThen]
    rfl

/-- What is inside an entry that is written has come to its end. -/
theorem fills_of_ok (h : (entry.plan.exec replaces c).result = .ok ()) : entry.Fills replaces := by
  cases entry with
  | text site key found => trivial
  | construct site key inner =>
    exact (Fold.nest_result_eq_ok.mp (Run.result_andThen_eq_ok.mp h).1).2

end Entry

/-! ### Entries in order -/

/-- Writes entries in order. -/
def ofEntries (entries : List Entry) : Plan := inOrder (entries.map Entry.plan)

theorem ofEntries_append (entries later : List Entry) :
    ofEntries (entries ++ later) = ofEntries entries ++ ofEntries later := by
  rw [ofEntries, List.map_append, inOrder_append]
  rfl

/-- A context has room for entries: all of them fit, and no two are in each other's way. -/
structure HaveRoom (c : Context) (entries : List Entry) : Prop where
  fits : ∀ entry ∈ entries, entry.Fits c
  compatible : entries.Pairwise Entry.Compatible

/-- The key of a nested context. -/
def Entry.constructKey? : Entry → Option String
  | .text .. => none
  | .construct _ key _ => some key

/-- The key of a text. -/
def Entry.textKey? : Entry → Option String
  | .text _ key _ => some key
  | .construct .. => none

variable {replaces : Bool} {c : Context} {entry : Entry} {entries before after : List Entry}

theorem forall_text_compatible_iff {site : Site} {key found : String} :
    (∀ entry ∈ entries, (Entry.text site key found).Compatible entry) ↔
      key ∉ entries.filterMap Entry.constructKey? := by
  simp only [List.mem_filterMap, not_exists, not_and]
  refine forall₂_congr fun entry _ => ?_
  cases entry <;>
    simp [Entry.Compatible, Entry.IsText, Entry.key, Entry.constructKey?, eq_comm]

theorem forall_construct_compatible_iff {site : Site} {key : String} {inner : Plan} :
    (∀ entry ∈ entries, (Entry.construct site key inner).Compatible entry) ↔
      key ∉ entries.filterMap Entry.constructKey? ∧ key ∉ entries.filterMap Entry.textKey? := by
  simp only [List.mem_filterMap, not_exists, not_and, ← forall_and]
  refine forall₂_congr fun entry _ => ?_
  cases entry <;>
    simp [Entry.Compatible, Entry.IsText, Entry.key, Entry.constructKey?, Entry.textKey?, eq_comm]

/-- **Entries are compatible** just if no two nested contexts have the same key and none has the key
of a text, in whatever order they come. -/
theorem pairwise_compatible_iff :
    entries.Pairwise Entry.Compatible ↔
      (entries.filterMap Entry.constructKey?).Nodup ∧
        ∀ key ∈ entries.filterMap Entry.constructKey?, key ∉ entries.filterMap Entry.textKey? := by
  induction entries with
  | nil => simp
  | cons entry rest ih =>
    rw [List.pairwise_cons, ih]
    cases entry with
    | text site key found =>
      rw [forall_text_compatible_iff]
      show _ ↔ (rest.filterMap Entry.constructKey?).Nodup ∧
        ∀ other ∈ rest.filterMap Entry.constructKey?, other ∉ key :: rest.filterMap Entry.textKey?
      constructor
      · rintro ⟨hkey, hnodup, hrest⟩
        refine ⟨hnodup, fun other hother => ?_⟩
        rw [List.mem_cons, not_or]
        exact ⟨fun heq => hkey (heq ▸ hother), hrest other hother⟩
      · rintro ⟨hnodup, hall⟩
        refine ⟨fun hkey => hall key hkey List.mem_cons_self, hnodup, fun other hother => ?_⟩
        exact fun htext => hall other hother (List.mem_cons_of_mem key htext)
    | construct site key inner =>
      rw [forall_construct_compatible_iff]
      show _ ↔ (key :: rest.filterMap Entry.constructKey?).Nodup ∧
        ∀ other ∈ key :: rest.filterMap Entry.constructKey?, other ∉ rest.filterMap Entry.textKey?
      rw [List.nodup_cons, List.forall_mem_cons]
      constructor
      · rintro ⟨⟨hkey, htext⟩, hnodup, hrest⟩
        exact ⟨⟨hkey, hnodup⟩, htext, hrest⟩
      · rintro ⟨⟨hkey, hnodup⟩, htext, hrest⟩
        exact ⟨⟨hkey, htext⟩, hnodup, hrest⟩

theorem haveRoom_nil : HaveRoom c [] := ⟨by simp, .nil⟩

theorem haveRoom_empty : HaveRoom .empty entries ↔ entries.Pairwise Entry.Compatible :=
  ⟨HaveRoom.compatible, fun h => ⟨fun _ _ _ hfound => absurd hfound (by simp), h⟩⟩

/-- **Entries have room one after the other** just if they have room all together. -/
theorem haveRoom_cons (replaces : Bool) :
    HaveRoom c (entry :: entries) ↔
      entry.Fits c ∧ HaveRoom (c.put entry.key (entry.value replaces)) entries := by
  constructor
  · rintro ⟨hfits, hcompatible⟩
    obtain ⟨hfirst, hrest⟩ := List.forall_mem_cons.mp hfits
    obtain ⟨hothers, hpairs⟩ := List.pairwise_cons.mp hcompatible
    refine ⟨hfirst, fun other hother => ?_, hpairs⟩
    exact (Entry.fits_put hfirst).mpr ⟨hrest other hother, hothers other hother⟩
  · rintro ⟨hfirst, hfits, hpairs⟩
    have hboth : ∀ other ∈ entries, other.Fits c ∧ entry.Compatible other :=
      fun other hother => (Entry.fits_put hfirst).mp (hfits other hother)
    refine ⟨List.forall_mem_cons.mpr ⟨hfirst, fun other hother => (hboth other hother).1⟩, ?_⟩
    exact List.pairwise_cons.mpr ⟨fun other hother => (hboth other hother).2, hpairs⟩

/-- There is room for one more entry just if it fits into what the others leave. -/
theorem haveRoom_append_singleton (replaces : Bool) :
    HaveRoom c (before ++ [entry]) ↔
      HaveRoom c before ∧ entry.Fits (c.putAll (before.map (Entry.written replaces))) := by
  induction before generalizing c with
  | nil =>
    rw [List.nil_append, haveRoom_cons replaces]
    exact ⟨fun h => ⟨haveRoom_nil, h.1⟩, fun h => ⟨h.2, haveRoom_nil⟩⟩
  | cons first rest ih =>
    rw [List.cons_append, haveRoom_cons replaces, haveRoom_cons replaces, ih, and_assoc]
    rfl

/-- **Entries with room are all written**, and so are any entries that may replace others. -/
theorem exec_ofEntries (hroom : replaces = true ∨ HaveRoom c entries)
    (hfills : ∀ entry ∈ entries, entry.Fills replaces) :
    ((ofEntries entries).exec replaces c).result = .ok () ∧
      ((ofEntries entries).exec replaces c).context =
        c.putAll (entries.map (Entry.written replaces)) := by
  induction entries generalizing c with
  | nil => exact ⟨rfl, rfl⟩
  | cons first rest ih =>
    obtain ⟨hfirst, hrest⟩ := List.forall_mem_cons.mp hfills
    have hfits : replaces = true ∨ first.Fits c :=
      hroom.imp_right fun h => ((haveRoom_cons replaces).mp h).1
    have hlater : replaces = true ∨ HaveRoom (c.put first.key (first.value replaces)) rest :=
      hroom.imp_right fun h => ((haveRoom_cons replaces).mp h).2
    obtain ⟨hok, hcontext⟩ := Entry.exec_plan_of_fits hfits hfirst
    -- the rest starts from what the first entry leaves
    have hnext := ih hlater hrest
    show ((first.plan ++ ofEntries rest).exec replaces c).result = .ok () ∧
      ((first.plan ++ ofEntries rest).exec replaces c).context = _
    rw [exec_append, Run.andThen_of_ok hok, hcontext]
    exact hnext

/-- What is written last under a key stands there in the end. -/
theorem get?_of_last (entry : Entry) (h : ∀ other ∈ after, other.key ≠ entry.key)
    (c : Context) :
    (c.putAll ((before ++ entry :: after).map (Entry.written replaces))).get? entry.key =
      some (entry.value replaces) := by
  rw [List.map_append, List.map_cons]
  refine Context.get?_putAll_of_last (fun hmem => ?_) c _ _
  rw [List.map_map] at hmem
  obtain ⟨other, hother, hkey⟩ := List.mem_map.mp hmem
  exact h other hother hkey

/-- Entries with room are compatible with those that come after them. -/
theorem HaveRoom.later (h : HaveRoom c (before ++ entry :: after)) :
    ∀ other ∈ after, entry.Compatible other :=
  (List.pairwise_cons.mp (List.pairwise_append.mp h.compatible).2.1).1

/-- A nested context with room is what stands under its key in the end. -/
theorem get?_of_construct {site : Site} {key : String} {inner : Plan} (hroom : HaveRoom c entries)
    (h : .construct site key inner ∈ entries) :
    (c.putAll (entries.map (Entry.written replaces))).get? key =
      some (.context (inner.exec replaces .empty).context) := by
  obtain ⟨before, after, rfl⟩ := List.append_of_mem h
  refine get?_of_last (.construct site key inner) (fun other hother hkey => ?_) c
  exact (hroom.later other hother hkey.symm).1

/-- Of texts with room under one key the last one is what stands there in the end. -/
theorem get?_of_last_text {site : Site} {key found : String}
    (hroom : HaveRoom c (before ++ .text site key found :: after))
    (h : key ∉ after.filterMap Entry.textKey?) :
    (c.putAll ((before ++ .text site key found :: after).map (Entry.written replaces))).get? key =
      some (.scalar found) := by
  refine get?_of_last (.text site key found) (fun other hother hkey => ?_) c
  have htext : other.IsText := (hroom.later other hother hkey.symm).2
  cases other with
  | text _ _ _ => exact h (List.mem_filterMap.mpr ⟨_, hother, congrArg some hkey⟩)
  | construct _ _ _ => exact htext.elim

/-- **The first entry without room is a duplicate key.** -/
theorem error_ofEntries (hfills : ∀ entry ∈ before, entry.Fills false) (hroom : HaveRoom c before)
    (h : ¬ HaveRoom c (before ++ [entry])) (after : List Entry) :
    ((ofEntries (before ++ entry :: after)).exec false c).result =
      .error (.duplicateKey entry.key entry.site.element entry.site.location) := by
  obtain ⟨hok, hcontext⟩ := exec_ofEntries (Or.inr hroom) hfills
  -- all entries before are written, and what they leave is in the way of this one
  have hmisfit : ¬ entry.Fits (c.putAll (before.map (Entry.written false))) :=
    fun hfits => h ((haveRoom_append_singleton false).mpr ⟨hroom, hfits⟩)
  rw [ofEntries_append, exec_append, Run.andThen_of_ok hok, hcontext]
  show ((entry.plan ++ ofEntries after).exec false _).result = _
  rw [exec_append, Entry.exec_plan_of_not_fits hmisfit, Run.fail_andThen]
  rfl

/-- If there is no room for all entries, there is a first one without room. -/
theorem exists_first_misfit (h : ¬ HaveRoom c entries) :
    ∃ before entry after, entries = before ++ entry :: after ∧ HaveRoom c before ∧
      ¬ HaveRoom c (before ++ [entry]) := by
  induction entries generalizing c with
  | nil => exact absurd haveRoom_nil h
  | cons first rest ih =>
    by_cases hfirst : first.Fits c
    · have hrest : ¬ HaveRoom (c.put first.key (first.value false)) rest :=
        fun hroom => h ((haveRoom_cons false).mpr ⟨hfirst, hroom⟩)
      obtain ⟨before, entry, after, rfl, hroom, hmisfit⟩ := ih hrest
      refine ⟨first :: before, entry, after, rfl, (haveRoom_cons false).mpr ⟨hfirst, hroom⟩, ?_⟩
      exact fun hall => hmisfit ((haveRoom_cons false).mp hall).2
    · refine ⟨[], first, rest, rfl, haveRoom_nil, fun hall => hfirst ?_⟩
      exact hall.fits first List.mem_cons_self

/-- **Entries come to their end** just if they may replace others or there is room for them. -/
theorem result_ofEntries_eq_ok (hfills : ∀ entry ∈ entries, entry.Fills replaces) :
    ((ofEntries entries).exec replaces c).result = .ok () ↔
      replaces = true ∨ HaveRoom c entries := by
  constructor
  · intro hok
    cases replaces with
    | true => exact Or.inl rfl
    | false =>
      refine Or.inr (Classical.byContradiction fun h => ?_)
      obtain ⟨before, entry, after, rfl, hroom, hmisfit⟩ := exists_first_misfit h
      have hbefore : ∀ first ∈ before, first.Fills false :=
        fun first hfirst => hfills first (List.mem_append_left _ hfirst)
      rw [error_ofEntries hbefore hroom hmisfit after] at hok
      exact absurd hok (by simp)
  · exact fun hroom => (exec_ofEntries hroom hfills).1

/-- Entries that do not come to their end fail with the first one without room. -/
theorem exists_first_error (hfills : ∀ entry ∈ entries, entry.Fills replaces)
    (h : ((ofEntries entries).exec replaces c).result ≠ .ok ()) :
    ∃ before entry after, entries = before ++ entry :: after ∧ HaveRoom c before ∧
      ¬ HaveRoom c (before ++ [entry]) ∧ ((ofEntries entries).exec replaces c).result =
        .error (.duplicateKey entry.key entry.site.element entry.site.location) := by
  rw [ne_eq, result_ofEntries_eq_ok hfills, not_or, Bool.not_eq_true] at h
  obtain ⟨rfl, hfull⟩ := h
  obtain ⟨before, entry, after, rfl, hroom, hmisfit⟩ := exists_first_misfit hfull
  refine ⟨before, entry, after, rfl, hroom, hmisfit, ?_⟩
  refine error_ofEntries (fun first hfirst => ?_) hroom hmisfit after
  exact hfills first (List.mem_append_left _ hfirst)

end SchemaFold.Plan
