/-
  OneAiKey.UpstreamTemplates.Expansion — what an expansion does to the document
  (`src/upstream_templates.rs`).

  Each insertion touches one section:

    sectionMappingMut_spec     one section is edited, every other name keeps its value
    insertUnique_spec          one entry more, under a new id
    insertIfAbsent_spec        one entry more, or the section as it was
    insertModelRouteTarget     a new route, or one more target behind those of a route

  `Expanded` collects what many of them have done to a document: five sections that have
  grown behind their old entries, routes that have grown behind their old targets, and
  nothing else.  One shortcut keeps it, and by induction all of them do.

  Main results:
    * `RoutesGrow.insert` — the model routes, one target at a time;
    * `expandUpstream_expanded` — one shortcut;
    * `shortcut_expansion_preserves_configuration` — all shortcuts, in any order.
-/
import OneAiKey.Lib.KeyedList
import OneAiKey.Resolve.Rows
import OneAiKey.RegistryStore.LoadBack
import OneAiKey.UpstreamTemplates.Records

namespace OneAiKey

open NamedEntries (names lookup contains has Grows)
open Collect (bind_eq_ok)

/-- The names of a YAML mapping. -/
abbrev YamlMapping.names (m : YamlMapping) : List String :=
  NamedEntries.names YamlValue.asText m

/-! ## §1. Sections. -/

/-- The entries of a section, none if there is no such mapping. -/
def sectionEntries (root : YamlMapping) (sectionName : String) : YamlMapping :=
  ((root.get sectionName).bind YamlValue.asMapping).getD []

namespace YamlValue

theorem asText_eq_some {value : YamlValue} {text : String} :
    value.asText = some text ↔ value = .string text := by
  constructor
  · intro h
    cases value with
    | string text' => exact congrArg YamlValue.string (Option.some.inj h)
    | _ => cases h
  · intro h
    rw [h]
    rfl

/-- The mapping behind a value has distinct names, and well-formed values. -/
theorem WellFormed.mapping_spec {value : YamlValue} (h : value.WellFormed) {m : YamlMapping}
    (hm : value.asMapping = some m) : m.names.Nodup ∧ ∀ entry ∈ m, entry.2.WellFormed := by
  induction h with
  | mapping distinct keys values _ _ =>
      cases hm
      refine ⟨?_, values⟩
      -- keys with the same text are the same key
      have hnames := distinct.filterMap (f := YamlValue.asText) fun key key' text hkey hkey' =>
        (asText_eq_some.mp hkey).trans (asText_eq_some.mp hkey').symm
      rw [List.filterMap_map] at hnames
      exact hnames
  | tagged tag inside ih => exact ih hm
  | _ => cases hm

variable {message : String} {f : YamlMapping → Except String YamlMapping}

/-- A change of the mapping behind a value, and behind its tags. -/
theorem modifyMapping_spec : ∀ {value value' : YamlValue},
    value.modifyMapping message f = .ok value' →
      ∃ entries entries', value.asMapping = some entries ∧ f entries = .ok entries' ∧
        value'.asMapping = some entries'
  | mapping entries, value', h => by
      obtain ⟨entries', hf, rfl⟩ := NamedEntries.map_eq_ok.mp h
      exact ⟨entries, entries', rfl, hf, rfl⟩
  | tagged tag value, value', h => by
      obtain ⟨inner, hinner, rfl⟩ := NamedEntries.map_eq_ok.mp h
      have hspec := modifyMapping_spec hinner
      exact hspec
  | null, _, h => nomatch h
  | bool _, _, h => nomatch h
  | number _, _, h => nomatch h
  | string _, _, h => nomatch h
  | sequence _, _, h => nomatch h

end YamlValue

namespace YamlMapping

theorem insert_of_not_mem {m : YamlMapping} {key : String} (h : key ∉ m.names)
    (value : YamlValue) : m.insert key value = m ++ [(.string key, value)] := by
  unfold insert containsKey
  rw [if_neg (mt NamedEntries.contains_iff.mp h)]

theorem get_insert_self {m : YamlMapping} {key : String} (h : key ∉ m.names)
    (value : YamlValue) : (m.insert key value).get key = some value := by
  rw [insert_of_not_mem h]
  unfold get
  have hname : YamlValue.asText (YamlValue.string key, value).1 = some key := rfl
  rw [NamedEntries.lookup_append_of_not_mem h]
  exact NamedEntries.lookup_cons_self hname []

theorem get_insert_other {m : YamlMapping} {key other : String} (h : key ∉ m.names)
    (hne : other ≠ key) (value : YamlValue) : (m.insert key value).get other = m.get other := by
  rw [insert_of_not_mem h]
  unfold get
  by_cases hmem : other ∈ m.names
  · rw [NamedEntries.lookup_append_of_mem hmem]
  · have hname : YamlValue.asText (YamlValue.string key) ≠ some other :=
      fun heq => hne (Option.some.inj heq).symm
    rw [NamedEntries.lookup_append_of_not_mem hmem, NamedEntries.lookup_cons_of_ne hname,
      NamedEntries.lookup_eq_none_iff.mpr hmem]
    rfl

end YamlMapping

/-- One section is edited, and every other name of the root keeps its value. -/
theorem sectionMappingMut_spec {root root' : YamlMapping} {sectionName : String}
    {f : YamlMapping → Except String YamlMapping}
    (h : sectionMappingMut root sectionName f = .ok root') :
    f (sectionEntries root sectionName) = .ok (sectionEntries root' sectionName) ∧
      ∀ other, other ≠ sectionName → root'.get other = root.get other := by
  unfold sectionMappingMut at h
  -- the section as the edit finds it
  have hready : ∃ ready : YamlMapping, ready.modify sectionName
      (·.modifyMapping (sectionName ++ " must be a YAML mapping") f) = .ok root' ∧
      (∀ other, other ≠ sectionName → ready.get other = root.get other) ∧
      ∃ value, ready.get sectionName = some value ∧
        value.asMapping.getD [] = sectionEntries root sectionName := by
    refine ⟨_, h, ?_⟩
    by_cases hmem : sectionName ∈ root.names
    · have hcontains : root.containsKey sectionName = true := NamedEntries.contains_iff.mpr hmem
      obtain ⟨value, hvalue⟩ := Option.ne_none_iff_exists'.mp
        (mt NamedEntries.lookup_eq_none_iff.mp (not_not.mpr hmem))
      have hget : root.get sectionName = some value := hvalue
      rw [if_pos hcontains]
      refine ⟨fun _ _ => rfl, value, hget, ?_⟩
      unfold sectionEntries
      rw [hget]
      rfl
    · have habsent : ¬ root.containsKey sectionName = true :=
        mt NamedEntries.contains_iff.mp hmem
      have hnone : root.get sectionName = none := NamedEntries.lookup_eq_none_iff.mpr hmem
      rw [if_neg habsent]
      -- the section is created empty, behind the others
      refine ⟨fun other hne => YamlMapping.get_insert_other hmem hne _, _,
        YamlMapping.get_insert_self hmem _, ?_⟩
      unfold sectionEntries
      rw [hnone]
      rfl
  obtain ⟨ready, hmodify, hothers, value, hvalue, hentries⟩ := hready
  obtain ⟨value', hvalue', hget'⟩ := NamedEntries.lookup_modify_self hmodify hvalue
  obtain ⟨entries, entries', hmapping, hf, hmapping'⟩ := YamlValue.modifyMapping_spec hvalue'
  have hnew : sectionEntries root' sectionName = entries' := by
    have hget : root'.get sectionName = some value' := hget'
    unfold sectionEntries
    rw [hget, Option.bind_some, hmapping']
    rfl
  rw [hmapping] at hentries
  rw [hnew, ← hentries]
  exact ⟨hf, fun other hne =>
    (NamedEntries.lookup_modify_other hne hmodify).trans (hothers other hne)⟩

/-- A new id, and its entry behind the others. -/
theorem insertUnique_spec {τ : Type} {toValue : τ → Except String YamlValue}
    {root root' : YamlMapping} {sectionName id : String} {value : τ}
    (h : insertUnique toValue root sectionName id value = .ok root') :
    id ∉ (sectionEntries root sectionName).names ∧
      (∃ encoded, sectionEntries root' sectionName =
        sectionEntries root sectionName ++ [(.string id, encoded)]) ∧
      ∀ other, other ≠ sectionName → root'.get other = root.get other := by
  obtain ⟨hsection, hothers⟩ := sectionMappingMut_spec h
  obtain ⟨_, hnew, hinsert⟩ := bind_eq_ok.mp hsection
  obtain ⟨encoded, -, hinsert⟩ := bind_eq_ok.mp hinsert
  have hnew := ensure_eq_ok hnew
  rw [Bool.not_eq_true'] at hnew
  have hfresh : id ∉ (sectionEntries root sectionName).names := by
    -- the guard has found no such id
    intro hmem
    have hcontains : (sectionEntries root sectionName).containsKey id = true :=
      NamedEntries.contains_iff.mpr hmem
    rw [hcontains] at hnew
    cases hnew
  refine ⟨hfresh, ⟨encoded, ?_⟩, hothers⟩
  rw [← Except.ok.inj hinsert, YamlMapping.insert_of_not_mem hfresh]

/-- The section as it was, or a new id and its entry behind the others. -/
theorem insertIfAbsent_spec {τ : Type} [DecidableEq τ] {toValue : τ → Except String YamlValue}
    {fromValue : YamlValue → Except String τ} {root root' : YamlMapping}
    {sectionName id : String} {value : τ}
    (h : insertIfAbsent toValue fromValue root sectionName id value = .ok root') :
    (sectionEntries root' sectionName = sectionEntries root sectionName ∨
      id ∉ (sectionEntries root sectionName).names ∧
        ∃ encoded, sectionEntries root' sectionName =
          sectionEntries root sectionName ++ [(.string id, encoded)]) ∧
      ∀ other, other ≠ sectionName → root'.get other = root.get other := by
  obtain ⟨hsection, hothers⟩ := sectionMappingMut_spec h
  refine ⟨?_, hothers⟩
  cases hget : (sectionEntries root sectionName).get id with
  | some existing =>
      rw [hget] at hsection
      obtain ⟨_, -, hsame⟩ := bind_eq_ok.mp hsection
      obtain ⟨_, -, hsame⟩ := bind_eq_ok.mp hsame
      -- the same is written there, and nothing is done
      exact Or.inl (Except.ok.inj hsame).symm
  | none =>
      rw [hget] at hsection
      obtain ⟨encoded, -, hinsert⟩ := bind_eq_ok.mp hsection
      have hfresh : id ∉ (sectionEntries root sectionName).names :=
        NamedEntries.lookup_eq_none_iff.mp hget
      refine Or.inr ⟨hfresh, encoded, ?_⟩
      rw [← Except.ok.inj hinsert, YamlMapping.insert_of_not_mem hfresh]

/-! ## §2. Model routes. -/

/-- What has been added to the route of a key. -/
def targetsFor (targets : List (String × ModelRouteTargetConfig)) (key : YamlValue) :
    List ModelRouteTargetConfig :=
  (targets.filter fun target => key.asText = some target.1).map (·.2)

theorem targetsFor_concat_self (targets : List (String × ModelRouteTargetConfig))
    {key : YamlValue} {model : String} (h : key.asText = some model)
    (target : ModelRouteTargetConfig) :
    targetsFor (targets ++ [(model, target)]) key = targetsFor targets key ++ [target] := by
  unfold targetsFor
  rw [List.filter_append, List.map_append]
  simp [h]

theorem targetsFor_concat_other (targets : List (String × ModelRouteTargetConfig))
    {key : YamlValue} {model : String} (h : key.asText ≠ some model)
    (target : ModelRouteTargetConfig) :
    targetsFor (targets ++ [(model, target)]) key = targetsFor targets key := by
  unfold targetsFor
  rw [List.filter_append, List.map_append]
  simp [h]

theorem targetsFor_eq_nil {targets : List (String × ModelRouteTargetConfig)} {key : YamlValue}
    (h : ∀ target ∈ targets, key.asText ≠ some target.1) : targetsFor targets key = [] := by
  unfold targetsFor
  rw [List.filter_eq_nil_iff.mpr (fun target htarget => by simpa using h target htarget)]
  rfl

namespace SerdeYaml

variable (serde : SerdeYaml)

/-- A model route is read back as it was written. -/
def ModelRoutesRoundTrip : Prop :=
  ∀ route value, serde.modelRouteToValue route = .ok value →
    serde.modelRouteFromValue value = .ok route

/-- The route that an entry begins with: the one it held, or the one of a new entry. -/
def originalRoute : Option YamlValue → Except String ModelRouteConfig
  | some value => serde.modelRouteFromValue value
  | none => .ok { strategy := some "priority", targets := [] }

/-- An entry of the model routes with what has been added to it.  Without an addition it holds
the value that it held.  With one it holds the original route with the new targets behind its
own, each on a channel that the route did not have. -/
inductive RouteExtends (extra : List ModelRouteTargetConfig) (original : Option YamlValue)
    (value : YamlValue) : Prop where
  | kept (nothing : extra = []) (same : original = some value)
  | extended (route : ModelRouteConfig) (something : extra ≠ [])
      (reads : serde.originalRoute original = .ok route)
      (holds : serde.modelRouteFromValue value =
        .ok { route with targets := route.targets ++ extra })
      (channels : ∀ target ∈ extra, ∀ target' ∈ route.targets, target'.channel ≠ target.channel)
      (distinct : (extra.map (·.channel)).Nodup)

/-- The entry has the key and extends the route. -/
def RouteFollows (targets : List (String × ModelRouteTargetConfig))
    (original : YamlValue × Option YamlValue) (entry : YamlValue × YamlValue) : Prop :=
  entry.1 = original.1 ∧ serde.RouteExtends (targetsFor targets original.1) original.2 entry.2

/-- The model routes, entry by entry, with the targets that were added: first the old entries,
in their places, then those of new models. -/
structure RoutesGrow (targets : List (String × ModelRouteTargetConfig))
    (entries entries' : YamlMapping) : Prop where
  routes : ∃ models : List String, (∀ model ∈ models, model ∉ entries.names) ∧
    List.Forall₂ (serde.RouteFollows targets)
      (entries.map (fun entry => (entry.1, some entry.2)) ++
        models.map fun model => (.string model, none)) entries'
  distinct : entries'.names.Nodup
  covered : ∀ target ∈ targets, target.1 ∈ entries'.names

variable {serde}

theorem RouteExtends.distinct_channels {extra : List ModelRouteTargetConfig}
    {original : Option YamlValue} {value : YamlValue}
    (h : serde.RouteExtends extra original value) : (extra.map (·.channel)).Nodup := by
  cases h with
  | kept nothing same =>
      rw [nothing]
      exact List.nodup_nil
  | extended route something reads holds channels distinct => exact distinct

/-- One more target behind those that the entry has, on a channel of its own. -/
theorem RouteExtends.push (hserde : serde.ModelRoutesRoundTrip)
    {extra : List ModelRouteTargetConfig} {original : Option YamlValue} {value value' : YamlValue}
    (h : serde.RouteExtends extra original value) {target : ModelRouteTargetConfig}
    {found : ModelRouteConfig} (hfound : serde.modelRouteFromValue value = .ok found)
    (hchannel : ∀ target' ∈ found.targets, target'.channel ≠ target.channel)
    (hvalue : serde.modelRouteToValue { found with targets := found.targets ++ [target] } =
      .ok value') : serde.RouteExtends (extra ++ [target]) original value' := by
  have hholds := hserde _ _ hvalue
  have hsomething : extra ++ [target] ≠ [] := List.append_ne_nil_of_right_ne_nil _
    (List.cons_ne_nil target [])
  -- the first target that is added, or one more behind those before it
  cases h with
  | kept nothing same =>
      subst nothing same
      refine .extended found hsomething hfound hholds ?_ (List.nodup_singleton _)
      intro added hadded
      rw [List.mem_singleton.mp hadded]
      exact hchannel
  | extended route something reads holds channels distinct =>
      rw [holds] at hfound
      cases hfound
      refine .extended route hsomething reads (by rw [hholds, List.append_assoc]) ?_ ?_
      · intro added hadded target' htarget'
        rcases List.mem_append.mp hadded with hadded | hadded
        · exact channels added hadded target' htarget'
        · rw [List.mem_singleton.mp hadded]
          exact hchannel target' (List.mem_append_left extra htarget')
      · -- the targets added before are among those that were found
        rw [List.map_append, List.map_singleton]
        refine List.nodup_append.mpr ⟨distinct, List.nodup_singleton _, ?_⟩
        rintro channel hmem channel' hmem' rfl
        obtain ⟨added, hadded, hchannel'⟩ := List.mem_map.mp hmem
        refine hchannel added (List.mem_append_right route.targets hadded) ?_
        rw [hchannel']
        exact List.mem_singleton.mp hmem'

theorem RoutesGrow.refl {entries : YamlMapping} (hdistinct : entries.names.Nodup) :
    serde.RoutesGrow [] entries entries := by
  refine ⟨⟨[], nofun, ?_⟩, hdistinct, nofun⟩
  rw [List.map_nil, List.append_nil, List.forall₂_map_left_iff]
  exact List.forall₂_same.mpr fun entry _ => ⟨rfl, .kept rfl rfl⟩

theorem map_fst_of_follows {targets : List (String × ModelRouteTargetConfig)}
    {originals : List (YamlValue × Option YamlValue)} {entries' : YamlMapping}
    (h : List.Forall₂ (serde.RouteFollows targets) originals entries') :
    entries'.map Prod.fst = originals.map Prod.fst := by
  induction h with
  | nil => rfl
  | cons hfollows hrest ih => rw [List.map_cons, List.map_cons, hfollows.1, ih]

/-- Every entry extends an original one. -/
theorem exists_follows {targets : List (String × ModelRouteTargetConfig)}
    {originals : List (YamlValue × Option YamlValue)} {entries' : YamlMapping}
    (h : List.Forall₂ (serde.RouteFollows targets) originals entries')
    {entry : YamlValue × YamlValue} (hentry : entry ∈ entries') :
    ∃ original, serde.RouteFollows targets original entry := by
  induction h with
  | nil => cases hentry
  | cons hfollows hrest ih =>
      rcases List.mem_cons.mp hentry with rfl | hentry
      · exact ⟨_, hfollows⟩
      · exact ih hentry

/-- Every original entry has an extension. -/
theorem exists_extension {targets : List (String × ModelRouteTargetConfig)}
    {originals : List (YamlValue × Option YamlValue)} {entries' : YamlMapping}
    (h : List.Forall₂ (serde.RouteFollows targets) originals entries')
    {original : YamlValue × Option YamlValue} (horiginal : original ∈ originals) :
    ∃ entry ∈ entries', serde.RouteFollows targets original entry := by
  induction h with
  | nil => cases horiginal
  | @cons _ entry _ _ hfollows hrest ih =>
      rcases List.mem_cons.mp horiginal with rfl | horiginal
      · exact ⟨entry, List.mem_cons_self, hfollows⟩
      · obtain ⟨entry', hentry', hfollows'⟩ := ih horiginal
        exact ⟨entry', List.mem_cons_of_mem entry hentry', hfollows'⟩

/-- The names are the old ones and those of the new models. -/
theorem names_of_follows {targets : List (String × ModelRouteTargetConfig)}
    {entries entries' : YamlMapping} {models : List String}
    (h : List.Forall₂ (serde.RouteFollows targets)
      (entries.map (fun entry => (entry.1, some entry.2)) ++
        models.map fun model => (.string model, none)) entries') :
    entries'.names = entries.names ++ models := by
  have hkeys := congrArg (List.filterMap YamlValue.asText) (map_fst_of_follows h)
  rw [List.filterMap_map, List.map_append, List.map_map, List.map_map, List.filterMap_append,
    List.filterMap_map, List.filterMap_map] at hkeys
  have hmodels : models.filterMap (YamlValue.asText ∘ Prod.fst ∘
      fun model => ((.string model, none) : YamlValue × Option YamlValue)) = models :=
    List.filterMap_some
  rw [hmodels] at hkeys
  exact hkeys

/-- One target more: in the entry of its model, or in a new one. -/
theorem RoutesGrow.insert (hserde : serde.ModelRoutesRoundTrip) {root root' : YamlMapping}
    {entries : YamlMapping} {targets : List (String × ModelRouteTargetConfig)}
    (h : serde.RoutesGrow targets entries (sectionEntries root "model_routes")) {model : String}
    {target : ModelRouteTargetConfig}
    (hinsert : insertModelRouteTarget serde root model target = .ok root') :
    serde.RoutesGrow (targets ++ [(model, target)]) entries
        (sectionEntries root' "model_routes") ∧
      ∀ other, other ≠ "model_routes" → root'.get other = root.get other := by
  obtain ⟨hsection, hothers⟩ := sectionMappingMut_spec hinsert
  refine ⟨?_, hothers⟩
  obtain ⟨⟨models, hmodels, hroutes⟩, hdistinct, hcovered⟩ := h
  -- the entries of other models stay as they are
  have hother : ∀ (original : YamlValue × Option YamlValue) (entry : YamlValue × YamlValue),
      serde.RouteFollows targets original entry → entry.1.asText ≠ some model →
      serde.RouteFollows (targets ++ [(model, target)]) original entry := by
    rintro original entry ⟨hkey, hextends⟩ hne
    rw [hkey] at hne
    refine ⟨hkey, ?_⟩
    rw [targetsFor_concat_other targets hne]
    exact hextends
  by_cases hmem : model ∈ (sectionEntries root "model_routes").names
  · have hcontains : (sectionEntries root "model_routes").containsKey model = true :=
      NamedEntries.contains_iff.mpr hmem
    simp only [hcontains, Bool.not_true, Bool.false_eq_true, if_false] at hsection
    have hnames := NamedEntries.names_modify hsection
    refine ⟨⟨models, hmodels, ?_⟩, ?_, ?_⟩
    · -- the entry of the model gets the target, the others are as they were
      refine NamedEntries.forall₂_modify hroutes hdistinct hsection ?_ hother
      rintro original entry value' ⟨hkey, hextends⟩ hname hvalue
      obtain ⟨found, hfound, hvalue⟩ := bind_eq_ok.mp hvalue
      obtain ⟨_, hchannel, hvalue⟩ := bind_eq_ok.mp hvalue
      have hchannel := ensure_eq_ok hchannel
      rw [Bool.not_eq_true', List.any_eq_false] at hchannel
      rw [hkey] at hname
      refine ⟨hkey, ?_⟩
      rw [targetsFor_concat_self targets hname]
      exact hextends.push hserde hfound
        (fun target' htarget' => by simpa using hchannel target' htarget') hvalue
    · show (names YamlValue.asText _).Nodup
      rw [hnames]
      exact hdistinct
    · intro added hadded
      show added.1 ∈ names YamlValue.asText _
      rw [hnames]
      rcases List.mem_append.mp hadded with hadded | hadded
      · exact hcovered added hadded
      · rw [List.mem_singleton.mp hadded]
        exact hmem
  · have habsent : (sectionEntries root "model_routes").containsKey model = false := by
      rw [Bool.eq_false_iff]
      exact mt NamedEntries.contains_iff.mp hmem
    simp only [habsent, Bool.not_false, if_true] at hsection
    obtain ⟨value, hvalue, hsection⟩ := bind_eq_ok.mp hsection
    have hnew := (Except.ok.inj hsection).symm
    rw [YamlMapping.insert_of_not_mem hmem] at hnew
    have hnames := names_of_follows hroutes
    rw [hnames, List.mem_append, not_or] at hmem
    -- the model is new, and this is its first target
    have hfirst : targetsFor (targets ++ [(model, target)]) (.string model) = [target] := by
      rw [targetsFor_concat_self targets rfl, targetsFor_eq_nil, List.nil_append]
      intro added hadded heq
      have hcover := hcovered added hadded
      rw [hnames, ← Option.some.inj heq] at hcover
      rcases List.mem_append.mp hcover with hold | hmodel
      · exact hmem.1 hold
      · exact hmem.2 hmodel
    have hnames' : (sectionEntries root' "model_routes").names =
        (sectionEntries root "model_routes").names ++ [model] := by
      rw [hnew]
      exact NamedEntries.names_append _ _
    refine ⟨⟨models ++ [model], ?_, ?_⟩, ?_, ?_⟩
    · intro model' hmodel'
      rcases List.mem_append.mp hmodel' with hmodel' | hmodel'
      · exact hmodels model' hmodel'
      · rw [List.mem_singleton.mp hmodel']
        exact hmem.1
    · rw [List.map_append, ← List.append_assoc, hnew]
      refine List.rel_append ?_ ?_
      · refine NamedEntries.forall₂_of_not_mem hroutes ?_ hother
        show model ∉ (sectionEntries root "model_routes").names
        rw [hnames, List.mem_append, not_or]
        exact hmem
      · refine .cons ⟨rfl, ?_⟩ .nil
        rw [hfirst]
        exact .extended _ (List.cons_ne_nil target []) rfl (hserde _ _ hvalue) nofun
          (List.nodup_singleton _)
    · rw [hnames']
      refine List.nodup_append.mpr ⟨hdistinct, List.nodup_singleton model, ?_⟩
      rintro old hold new hnew' rfl
      rw [List.mem_singleton.mp hnew', hnames, List.mem_append] at hold
      exact hold.elim hmem.1 hmem.2
    · intro added hadded
      rw [hnames', List.mem_append]
      rcases List.mem_append.mp hadded with hadded | hadded
      · exact Or.inl (hcovered added hadded)
      · rw [List.mem_singleton.mp hadded]
        exact Or.inr (List.mem_singleton_self model)

/-- A route that can be read keeps its strategy and its targets, and may have more behind
them. -/
theorem RoutesGrow.keeps {targets : List (String × ModelRouteTargetConfig)}
    {entries entries' : YamlMapping} (h : serde.RoutesGrow targets entries entries')
    {entry : YamlValue × YamlValue} (hentry : entry ∈ entries) {route : ModelRouteConfig}
    (hroute : serde.modelRouteFromValue entry.2 = .ok route) :
    ∃ entry' ∈ entries', entry'.1 = entry.1 ∧
      serde.modelRouteFromValue entry'.2 =
        .ok { route with targets := route.targets ++ targetsFor targets entry.1 } := by
  obtain ⟨models, -, hroutes⟩ := h.routes
  have hmem : (entry.1, some entry.2) ∈ entries.map (fun entry => (entry.1, some entry.2)) ++
      models.map fun model => ((.string model, none) : YamlValue × Option YamlValue) :=
    List.mem_append_left _ (List.mem_map.mpr ⟨entry, hentry, rfl⟩)
  obtain ⟨entry', hentry', hkey, hextends⟩ := exists_extension hroutes hmem
  refine ⟨entry', hentry', hkey, ?_⟩
  cases hextends with
  -- no target was added for this key
  | kept nothing same =>
      dsimp only at nothing
      rw [nothing, List.append_nil, ← Option.some.inj same]
      exact hroute
  | extended found something reads holds channels distinct =>
      have hfound : found = route := Except.ok.inj (reads.symm.trans hroute)
      rw [holds, hfound]

/-- In no route two of the added targets are on one channel. -/
theorem RoutesGrow.distinct_channels {targets : List (String × ModelRouteTargetConfig)}
    {entries entries' : YamlMapping} (h : serde.RoutesGrow targets entries entries')
    (model : String) : ((targetsFor targets (.string model)).map (·.channel)).Nodup := by
  by_cases hadded : ∃ target ∈ targets, target.1 = model
  · obtain ⟨target, htarget, rfl⟩ := hadded
    obtain ⟨entry, hentry, hname⟩ := NamedEntries.mem_names.mp (h.covered target htarget)
    obtain ⟨models, -, hroutes⟩ := h.routes
    obtain ⟨original, hkey, hextends⟩ := exists_follows hroutes hentry
    rw [hkey, YamlValue.asText_eq_some] at hname
    rw [hname] at hextends
    exact hextends.distinct_channels
  · rw [targetsFor_eq_nil]
    · exact List.nodup_nil
    · intro target htarget heq
      exact hadded ⟨target, htarget, (Option.some.inj heq).symm⟩

end SerdeYaml

/-! ## §3. One shortcut. -/

/-- The sections that a shortcut adds entries to. -/
inductive ShortcutSection where
  | providers
  | accounts
  | credentialSets
  | policyProfiles
  | pools
  deriving DecidableEq

def ShortcutSection.text : ShortcutSection → String
  | providers => "providers"
  | accounts => "accounts"
  | credentialSets => "credential_sets"
  | policyProfiles => "policy_profiles"
  | pools => "pools"

theorem ShortcutSection.text_inj {s s' : ShortcutSection} (h : s.text = s'.text) : s = s' := by
  cases s <;> cases s' <;> first | rfl | exact absurd h (by decide)

theorem ShortcutSection.text_ne_modelRoutes (s : ShortcutSection) : s.text ≠ "model_routes" := by
  cases s <;> decide

/-- What has happened to a document: the sections have grown by these ids, the routes by these
targets, and every other name has the value that it had. -/
structure Expanded (serde : SerdeYaml) (root : YamlMapping) (ids : ShortcutSection → List String)
    (targets : List (String × ModelRouteTargetConfig)) (root' : YamlMapping) : Prop where
  sections : ∀ s : ShortcutSection, Grows YamlValue.asText (ids s) (sectionEntries root s.text)
    (sectionEntries root' s.text)
  modelRoutes : serde.RoutesGrow targets (sectionEntries root "model_routes")
    (sectionEntries root' "model_routes")
  others : ∀ name, (∀ s : ShortcutSection, name ≠ s.text) → name ≠ "model_routes" →
    root'.get name = root.get name

/-- A section is what its name stands for. -/
theorem sectionEntries_congr {root root' : YamlMapping} {name : String}
    (h : root'.get name = root.get name) : sectionEntries root' name = sectionEntries root name := by
  unfold sectionEntries
  rw [h]

namespace Expanded

variable {serde : SerdeYaml} {root current next : YamlMapping}
  {ids : ShortcutSection → List String} {targets : List (String × ModelRouteTargetConfig)}

theorem refl (hdistinct : (sectionEntries root "model_routes").names.Nodup) :
    Expanded serde root (fun _ => []) [] root :=
  ⟨fun _ => Grows.refl _, .refl hdistinct, fun _ _ _ => rfl⟩

/-- One section is edited, and the others are as they were. -/
theorem editSection (h : Expanded serde root ids targets current) (s : ShortcutSection)
    {added : List String}
    (hgrows : Grows YamlValue.asText added (sectionEntries root s.text)
      (sectionEntries next s.text))
    (hothers : ∀ other, other ≠ s.text → next.get other = current.get other) :
    Expanded serde root (Function.update ids s added) targets next := by
  refine ⟨?_, ?_, ?_⟩
  · intro s'
    by_cases hs : s' = s
    · rw [hs, Function.update_self]
      exact hgrows
    · have hsame : sectionEntries next s'.text = sectionEntries current s'.text :=
        sectionEntries_congr (hothers _ fun heq => hs (ShortcutSection.text_inj heq))
      rw [Function.update_of_ne hs, hsame]
      exact h.sections s'
  · rw [sectionEntries_congr (hothers _ s.text_ne_modelRoutes.symm)]
    exact h.modelRoutes
  · intro name hname hroutes
    rw [hothers name (hname s), h.others name hname hroutes]

/-- One section has one id more. -/
theorem addId (h : Expanded serde root ids targets current) (s : ShortcutSection) {id : String}
    (hfresh : id ∉ (sectionEntries current s.text).names)
    (hnew : ∃ encoded, sectionEntries next s.text =
      sectionEntries current s.text ++ [(.string id, encoded)])
    (hothers : ∀ other, other ≠ s.text → next.get other = current.get other) :
    Expanded serde root (Function.update ids s (ids s ++ [id])) targets next := by
  obtain ⟨encoded, hnew⟩ := hnew
  refine h.editSection s ?_ hothers
  rw [hnew]
  exact (h.sections s).push rfl hfresh encoded

theorem insertUnique {τ : Type} {toValue : τ → Except String YamlValue} {s : ShortcutSection}
    {id : String} {value : τ} (h : Expanded serde root ids targets current)
    (hinsert : OneAiKey.insertUnique toValue current s.text id value = .ok next) :
    Expanded serde root (Function.update ids s (ids s ++ [id])) targets next := by
  obtain ⟨hfresh, hnew, hothers⟩ := insertUnique_spec hinsert
  exact h.addId s hfresh hnew hothers

/-- The section has the id more, or not. -/
theorem insertIfAbsent {τ : Type} [DecidableEq τ] {toValue : τ → Except String YamlValue}
    {fromValue : YamlValue → Except String τ} {s : ShortcutSection} {id : String} {value : τ}
    (h : Expanded serde root ids targets current)
    (hinsert : OneAiKey.insertIfAbsent toValue fromValue current s.text id value = .ok next) :
    ∃ more, more ⊆ [id] ∧
      Expanded serde root (Function.update ids s (ids s ++ more)) targets next := by
  obtain ⟨hsame | ⟨hfresh, hnew⟩, hothers⟩ := insertIfAbsent_spec hinsert
  · refine ⟨[], List.nil_subset _, h.editSection s ?_ hothers⟩
    rw [List.append_nil, hsame]
    exact h.sections s
  · exact ⟨[id], List.Subset.refl _, h.addId s hfresh hnew hothers⟩

/-- One target more, and the other sections as they were. -/
theorem insertTarget (hserde : serde.ModelRoutesRoundTrip)
    (h : Expanded serde root ids targets current) {model : String}
    {target : ModelRouteTargetConfig}
    (hinsert : insertModelRouteTarget serde current model target = .ok next) :
    Expanded serde root ids (targets ++ [(model, target)]) next := by
  obtain ⟨hroutes, hothers⟩ := h.modelRoutes.insert hserde hinsert
  refine ⟨?_, hroutes, ?_⟩
  · intro s
    rw [sectionEntries_congr (hothers _ s.text_ne_modelRoutes)]
    exact h.sections s
  · intro name hname hne
    rw [hothers name hne, h.others name hname hne]

/-- The loop over the models. -/
theorem insertRoutes (hserde : serde.ModelRoutesRoundTrip) {shortcut : UpstreamShortcutIds}
    {modelRoutes : List UpstreamShortcutModelRoute}
    (h : Expanded serde root ids targets current)
    (hinsert : modelRoutes.foldlM (insertModelRoute serde shortcut) current = .ok next) :
    Expanded serde root ids (targets ++ modelRoutes.map fun modelRoute =>
      (modelRoute.publicModel, shortcutTarget shortcut modelRoute)) next := by
  induction modelRoutes generalizing current targets with
  | nil =>
      cases hinsert
      rw [List.map_nil, List.append_nil]
      exact h
  | cons modelRoute modelRoutes ih =>
      rw [List.foldlM_cons] at hinsert
      obtain ⟨middle, hfirst, hrest⟩ := bind_eq_ok.mp hinsert
      obtain ⟨_, -, hfirst⟩ := bind_eq_ok.mp hfirst
      -- the targets of the rest go behind the first one
      have hall := ih (h.insertTarget hserde hfirst) hrest
      rw [List.append_assoc] at hall
      exact hall

end Expanded

/-- What one shortcut asks for. -/
structure UpstreamShortcutPlan where
  ids : UpstreamShortcutIds
  modelRoutes : List UpstreamShortcutModelRoute

def UpstreamShortcutConfig.plan (upstream : UpstreamShortcutConfig) (rawId : String) :
    Except String UpstreamShortcutPlan := do
  let ids ← upstream.ids rawId
  let modelRoutes ← upstream.modelRoutes ids.template
  return { ids := ids, modelRoutes := modelRoutes }

/-- The targets of a shortcut, each with the model that it is added to. -/
def UpstreamShortcutPlan.targets (plan : UpstreamShortcutPlan) :
    List (String × ModelRouteTargetConfig) :=
  plan.modelRoutes.map fun modelRoute =>
    (modelRoute.publicModel, shortcutTarget plan.ids modelRoute)

/-- The ids that shortcuts add: an account, a credential set and a pool for each of them, and
a provider or a policy profile where there was none. -/
structure PlannedIds (plans : List UpstreamShortcutPlan) (ids : ShortcutSection → List String) :
    Prop where
  accounts : ids .accounts = plans.map (·.ids.accountId)
  credentialSets : ids .credentialSets = plans.map (·.ids.credentialSetId)
  pools : ids .pools = plans.map (·.ids.channelId)
  providers : ids .providers ⊆ plans.map (·.ids.providerId)
  policyProfiles : ids .policyProfiles ⊆ plans.filterMap (·.ids.policyProfileId)

section Run

variable {serde : SerdeYaml} {root current next : YamlMapping}
  {ids : ShortcutSection → List String} {plans : List UpstreamShortcutPlan}

/-- The profile of the template is there afterwards, if there is one. -/
theorem Expanded.insertSitePolicyProfile {targets : List (String × ModelRouteTargetConfig)}
    {shortcut : UpstreamShortcutIds} (h : Expanded serde root ids targets current)
    (hinsert : OneAiKey.insertSitePolicyProfile serde shortcut current = .ok next) :
    ∃ more, more ⊆ shortcut.policyProfileId.toList ∧
      Expanded serde root (Function.update ids .policyProfiles (ids .policyProfiles ++ more))
        targets next := by
  unfold OneAiKey.insertSitePolicyProfile at hinsert
  split at hinsert
  · next policyProfileId policyProfile hid hprofile =>
      rw [hid]
      exact h.insertIfAbsent (s := .policyProfiles) hinsert
  · cases hinsert
    refine ⟨[], List.nil_subset _, ?_⟩
    rw [List.append_nil, Function.update_eq_self]
    exact h

/-- What one shortcut does. -/
theorem expandUpstream_expanded (hserde : serde.ModelRoutesRoundTrip)
    {entry : String × UpstreamShortcutConfig}
    (h : Expanded serde root ids (plans.flatMap (·.targets)) current)
    (hids : PlannedIds plans ids) (hexpand : expandUpstream serde current entry = .ok next) :
    ∃ plan ids', entry.2.plan entry.1 = .ok plan ∧ PlannedIds (plans ++ [plan]) ids' ∧
      Expanded serde root ids' ((plans ++ [plan]).flatMap (·.targets)) next := by
  obtain ⟨shortcut, hshortcut, hexpand⟩ := bind_eq_ok.mp hexpand
  obtain ⟨r₁, hprovider, hexpand⟩ := bind_eq_ok.mp hexpand
  obtain ⟨r₂, haccount, hexpand⟩ := bind_eq_ok.mp hexpand
  obtain ⟨r₃, hcredentials, hexpand⟩ := bind_eq_ok.mp hexpand
  obtain ⟨r₄, hprofile, hexpand⟩ := bind_eq_ok.mp hexpand
  obtain ⟨r₅, hpool, hexpand⟩ := bind_eq_ok.mp hexpand
  obtain ⟨modelRoutes, hmodels, hexpand⟩ := bind_eq_ok.mp hexpand
  -- section by section, in the order of the insertions
  obtain ⟨providers, hproviders, h₁⟩ := h.insertIfAbsent (s := .providers) hprovider
  have h₂ := h₁.insertUnique (s := .accounts) haccount
  have h₃ := h₂.insertUnique (s := .credentialSets) hcredentials
  obtain ⟨profiles, hprofiles, h₄⟩ := h₃.insertSitePolicyProfile hprofile
  have h₅ := h₄.insertUnique (s := .pools) hpool
  have h₆ := h₅.insertRoutes hserde hexpand
  have hplan : entry.2.plan entry.1 = .ok ⟨shortcut, modelRoutes⟩ := by
    unfold UpstreamShortcutConfig.plan
    rw [hshortcut]
    show (entry.2.modelRoutes shortcut.template >>= _) = _
    rw [hmodels]
    rfl
  have htargets : (plans ++ [UpstreamShortcutPlan.mk shortcut modelRoutes]).flatMap (·.targets) =
      plans.flatMap (·.targets) ++ modelRoutes.map fun modelRoute =>
        (modelRoute.publicModel, shortcutTarget shortcut modelRoute) := by
    rw [List.flatMap_append, List.flatMap_singleton]
    rfl
  rw [← htargets] at h₆
  refine ⟨_, _, hplan, ⟨?_, ?_, ?_, ?_, ?_⟩, h₆⟩
  · show ids .accounts ++ [_] = _
    rw [hids.accounts, List.map_append]
    rfl
  · show ids .credentialSets ++ [_] = _
    rw [hids.credentialSets, List.map_append]
    rfl
  · show ids .pools ++ [_] = _
    rw [hids.pools, List.map_append]
    rfl
  · show ids .providers ++ providers ⊆ _
    rw [List.map_append]
    exact List.append_subset.mpr
      ⟨List.subset_append_of_subset_left _ hids.providers,
        List.subset_append_of_subset_right _ hproviders⟩
  · have hprofile : [UpstreamShortcutPlan.mk shortcut modelRoutes].filterMap
        (·.ids.policyProfileId) = shortcut.policyProfileId.toList := by
      cases hid : shortcut.policyProfileId <;> simp [hid]
    show ids .policyProfiles ++ profiles ⊆ _
    rw [List.filterMap_append, hprofile]
    exact List.append_subset.mpr
      ⟨List.subset_append_of_subset_left _ hids.policyProfiles,
        List.subset_append_of_subset_right _ hprofiles⟩

/-- What the shortcuts do, one after another. -/
theorem foldlM_expandUpstream (hserde : serde.ModelRoutesRoundTrip)
    (entries : List (String × UpstreamShortcutConfig))
    (h : Expanded serde root ids (plans.flatMap (·.targets)) current)
    (hids : PlannedIds plans ids)
    (hexpand : entries.foldlM (expandUpstream serde) current = .ok next) :
    ∃ more ids', List.Forall₂ (fun entry plan => entry.2.plan entry.1 = .ok plan) entries more ∧
      PlannedIds (plans ++ more) ids' ∧
      Expanded serde root ids' ((plans ++ more).flatMap (·.targets)) next := by
  induction entries generalizing current plans ids with
  | nil =>
      cases hexpand
      refine ⟨[], ids, .nil, ?_, ?_⟩
      · rw [List.append_nil]
        exact hids
      · rw [List.append_nil]
        exact h
  | cons entry entries ih =>
      rw [List.foldlM_cons] at hexpand
      obtain ⟨middle, hfirst, hrest⟩ := bind_eq_ok.mp hexpand
      obtain ⟨plan, ids₁, hplan, hids₁, h₁⟩ := expandUpstream_expanded hserde h hids hfirst
      obtain ⟨more, ids₂, hmore, hids₂, h₂⟩ := ih h₁ hids₁ hrest
      rw [List.append_assoc] at hids₂ h₂
      exact ⟨plan :: more, ids₂, .cons hplan hmore, hids₂, h₂⟩

end Run

/-! ## §4. All shortcuts. -/

/-- Sorting leaves nothing of the order in which the map was read. -/
theorem sortUpstreams_eq {upstreams : IdMap UpstreamShortcutConfig}
    (order : IterationOrder upstreams) :
    sortUpstreams order = IdMap.sortedEntries upstreams := by
  have hperm := List.perm_insertionSort
    (fun a b : String × UpstreamShortcutConfig => a.1 ≤ b.1)
    (order.1.map fun entry => (entry.1, entry.2))
  have hdistinct : KeyedList.Distinct Prod.fst
      (order.1.map fun entry => (entry.1, entry.2)) := by
    unfold KeyedList.Distinct
    rw [List.map_map]
    exact order.nodup_keys
  have hdistinct' : KeyedList.Distinct Prod.fst (IdMap.sortedEntries upstreams) := by
    unfold KeyedList.Distinct
    rw [IdMap.map_fst_sortedEntries]
    exact IdMap.nodup_sortedKeys upstreams
  have hsorted : (IdMap.sortedEntries upstreams).Pairwise fun a b => a.1 ≤ b.1 := by
    have hkeys := IdMap.pairwise_sortedKeys upstreams
    rw [← IdMap.map_fst_sortedEntries, List.pairwise_map] at hkeys
    exact hkeys
  -- sorted lists of the same entries, whose keys are distinct, are equal
  refine (hdistinct.perm hperm).eq_of_sorted hdistinct' (fun a b => le_antisymm)
    (List.pairwise_insertionSort _ _) hsorted ?_
  rintro ⟨id, upstream⟩
  rw [hperm.mem_iff, IdMap.mem_sortedEntries, ← IterationOrder.mem_iff_lookup,
    List.mem_map]
  constructor
  · rintro ⟨entry, hentry, heq⟩
    cases heq
    exact hentry
  · exact fun hentry => ⟨_, hentry, rfl⟩

namespace UpstreamShortcutPlan

/-- A shortcut adds targets on its own channel. -/
theorem channel_of_mem_targets {plan : UpstreamShortcutPlan}
    {target : String × ModelRouteTargetConfig} (h : target ∈ plan.targets) :
    target.2.channel = plan.ids.channelId := by
  obtain ⟨modelRoute, -, rfl⟩ := List.mem_map.mp h
  rfl

/-- The targets of one shortcut are for different models. -/
theorem nodup_models {plans : List UpstreamShortcutPlan}
    (h : ∀ model : String, ((targetsFor (plans.flatMap (·.targets)) (.string model)).map
      (·.channel)).Nodup) {plan : UpstreamShortcutPlan} (hplan : plan ∈ plans) :
    (plan.targets.map Prod.fst).Nodup := by
  rw [List.nodup_iff_count_le_one]
  intro model
  -- the targets of one shortcut are among those of all
  have hsublist : plan.targets.Sublist (plans.flatMap (·.targets)) :=
    List.sublist_flatten_of_mem (List.mem_map_of_mem hplan)
  have hnodup : ((targetsFor plan.targets (.string model)).map (·.channel)).Nodup :=
    (h model).sublist (((hsublist.filter _).map _).map _)
  -- all of them are on the channel of the shortcut
  have hchannels : (targetsFor plan.targets (.string model)).map (·.channel) =
      List.replicate (targetsFor plan.targets (.string model)).length plan.ids.channelId := by
    rw [List.eq_replicate_iff, List.length_map]
    refine ⟨rfl, fun channel hchannel => ?_⟩
    obtain ⟨target, htarget, rfl⟩ := List.mem_map.mp hchannel
    obtain ⟨added, hadded, rfl⟩ := List.mem_map.mp htarget
    exact channel_of_mem_targets (List.mem_filter.mp hadded).1
  rw [hchannels, List.nodup_replicate] at hnodup
  calc (plan.targets.map Prod.fst).count model
      = (targetsFor plan.targets (.string model)).length := by
        unfold targetsFor
        rw [List.count_eq_countP, List.countP_map, List.countP_eq_length_filter, List.length_map]
        congr 2
        funext target
        rw [Function.comp_apply, Bool.eq_iff_iff, beq_iff_eq, decide_eq_true_iff]
        exact ⟨fun heq => congrArg some heq.symm, fun heq => (Option.some.inj heq).symm⟩
    _ ≤ 1 := hnodup

end UpstreamShortcutPlan

namespace YamlMapping

theorem get_remove_self {m : YamlMapping} (h : m.names.Nodup) (key : String) :
    (m.remove key).get key = none :=
  NamedEntries.lookup_eq_none_iff.mpr (NamedEntries.not_mem_names_swapRemove h key)

theorem get_remove_other {m : YamlMapping} (h : m.names.Nodup) {key other : String}
    (hne : other ≠ key) : (m.remove key).get other = m.get other :=
  NamedEntries.lookup_swapRemove h hne

end YamlMapping

/-- The sections of a well-formed document have distinct names. -/
theorem nodup_names_sectionEntries {root : YamlMapping} (hdistinct : root.names.Nodup)
    (hvalues : ∀ entry ∈ root, entry.2.WellFormed) (name : String) :
    (sectionEntries root name).names.Nodup := by
  unfold sectionEntries
  cases hget : root.get name with
  | none => exact List.nodup_nil
  | some value =>
      rw [Option.bind_some]
      cases hentries : value.asMapping with
      | none => exact List.nodup_nil
      | some entries =>
          obtain ⟨entry, hentry, -, rfl⟩ := (NamedEntries.lookup_eq_some_iff hdistinct).mp hget
          exact ((hvalues entry hentry).mapping_spec hentries).1

/-- Whatever the order in which the map of shortcuts is read, the expansion gives the same.
When it gives a document, each of the five sections has its old entries, in their places and
with their values, and behind them the new ids; each shortcut has added an account, a
credential set and a pool.  A model route that can be read keeps its strategy and has its old
targets before the new ones, of which each shortcut has at most one for a model, on its own
channel.  Every other name but `upstreams` keeps its value. -/
theorem shortcut_expansion_preserves_configuration {serde : SerdeYaml}
    (hserde : serde.ModelRoutesRoundTrip) {value : YamlValue} (hvalue : value.WellFormed)
    (upstreams : IdMap UpstreamShortcutConfig) :
    (∀ order order' : IterationOrder upstreams,
      expandInValue serde value order = expandInValue serde value order') ∧
    ∀ (order : IterationOrder upstreams) (value' : YamlValue),
      expandInValue serde value order = .ok value' →
      ∃ (root root' : YamlMapping) (plans : List UpstreamShortcutPlan)
        (ids : ShortcutSection → List String),
        value.asMapping = some root ∧ value'.asMapping = some root' ∧
        List.Forall₂ (fun entry plan => entry.2.plan entry.1 = .ok plan)
          (IdMap.sortedEntries upstreams) plans ∧
        PlannedIds plans ids ∧
        (∀ s : ShortcutSection, Grows YamlValue.asText (ids s) (sectionEntries root s.text)
          (sectionEntries root' s.text)) ∧
        serde.RoutesGrow (plans.flatMap (·.targets)) (sectionEntries root "model_routes")
          (sectionEntries root' "model_routes") ∧
        (∀ entry ∈ sectionEntries root "model_routes", ∀ route,
          serde.modelRouteFromValue entry.2 = .ok route →
          ∃ entry' ∈ sectionEntries root' "model_routes", entry'.1 = entry.1 ∧
            serde.modelRouteFromValue entry'.2 = .ok { route with
              targets := route.targets ++ targetsFor (plans.flatMap (·.targets)) entry.1 }) ∧
        (∀ plan ∈ plans, (plan.targets.map Prod.fst).Nodup ∧
          ∀ target ∈ plan.targets, target.2.channel = plan.ids.channelId) ∧
        root'.get "upstreams" = none ∧
        ∀ name, (∀ s : ShortcutSection, name ≠ s.text) → name ≠ "model_routes" →
          name ≠ "upstreams" → root'.get name = root.get name := by
  refine ⟨fun order order' => ?_, fun order value' hexpand => ?_⟩
  · unfold expandInValue
    rw [sortUpstreams_eq, sortUpstreams_eq]
  obtain ⟨root, root', hroot, hfold, hroot'⟩ := YamlValue.modifyMapping_spec hexpand
  rw [sortUpstreams_eq] at hfold
  obtain ⟨hdistinct, hvalues⟩ := hvalue.mapping_spec hroot
  -- without `upstreams` the sections are those of the document
  have hremoved : ∀ name, name ≠ "upstreams" →
      sectionEntries (root.remove "upstreams") name = sectionEntries root name :=
    fun name hne => sectionEntries_congr (YamlMapping.get_remove_other hdistinct hne)
  have hsection : ∀ s : ShortcutSection, s.text ≠ "upstreams" := fun s => by cases s <;> decide
  have hroutes : (sectionEntries (root.remove "upstreams") "model_routes").names.Nodup := by
    rw [hremoved _ (by decide)]
    exact nodup_names_sectionEntries hdistinct hvalues _
  have hnone : PlannedIds [] fun _ => [] :=
    ⟨rfl, rfl, rfl, List.nil_subset _, List.nil_subset _⟩
  obtain ⟨plans, ids, hplans, hids, hexpanded⟩ := foldlM_expandUpstream hserde
    (IdMap.sortedEntries upstreams) (Expanded.refl hroutes) hnone hfold
  rw [List.nil_append] at hids hexpanded
  have hgrows := hexpanded.modelRoutes
  rw [hremoved _ (by decide)] at hgrows
  refine ⟨root, root', plans, ids, hroot, hroot', hplans, hids, fun s => ?_, hgrows,
    fun entry hentry route hroute => hgrows.keeps hentry hroute, fun plan hplan => ⟨?_, ?_⟩,
    ?_, fun name hname hne hupstreams => ?_⟩
  · have hsections := hexpanded.sections s
    rw [hremoved _ (hsection s)] at hsections
    exact hsections
  · exact UpstreamShortcutPlan.nodup_models hgrows.distinct_channels hplan
  · exact fun target htarget => UpstreamShortcutPlan.channel_of_mem_targets htarget
  · rw [hexpanded.others _ (fun s => (hsection s).symm) (by decide)]
    exact YamlMapping.get_remove_self hdistinct _
  · rw [hexpanded.others name hname hne]
    exact YamlMapping.get_remove_other hdistinct hupstreams

/-- A document with a route of its own. -/
def explicitDocument : YamlValue :=
  .record [
    ("upstreams", .null),
    ("model_routes", .record [
      ("gpt", (ModelRouteConfig.mk (some "weighted") [⟨"main", none, 1, 5, true⟩]).toValue)])]

theorem explicitDocument_wellFormed : explicitDocument.WellFormed := by
  refine .record (by decide) fun field hfield => ?_
  rcases List.mem_pair.mp hfield with rfl | rfl
  · exact .null
  · refine .record (by decide) fun field hfield => ?_
    rw [List.mem_singleton.mp hfield]
    exact ModelRouteConfig.wellFormed_toValue _

theorem recordSerde_modelRoutesRoundTrip : recordSerde.ModelRoutesRoundTrip := by
  intro route value hvalue
  cases hvalue
  exact route.fromValue_toValue

/-- A shortcut for that model and another one. -/
def relayShortcut : UpstreamShortcutConfig where
  template := "openai_compatible_bearer"
  keysFile := "relay.keys"
  apiBase := some "https://relay.example/v1"
  provider := none
  account := none
  credentialSet := none
  policyProfile := none
  authHeader := none
  authPrefix := none
  relayProfile := none
  balanceScope := none
  enabled := true
  models := [.name "gpt", .route "mini" (some "mini-v2")]

def relayUpstreams : IdMap UpstreamShortcutConfig := Finmap.singleton "relay" relayShortcut

/-- The document is expanded: a pool and an account of the relay, and the route of `gpt` with
the relay behind its own target. -/
theorem shortcut_expansion_preserves_configuration_relay :
    ∃ value' root root', expandInValue recordSerde explicitDocument (sortedOrder relayUpstreams) =
        .ok value' ∧
      explicitDocument.asMapping = some root ∧ value'.asMapping = some root' ∧
      Grows YamlValue.asText ["relay"] (sectionEntries root "pools")
        (sectionEntries root' "pools") ∧
      Grows YamlValue.asText ["relay_account"] (sectionEntries root "accounts")
        (sectionEntries root' "accounts") ∧
      (∃ entry ∈ sectionEntries root' "model_routes", entry.1 = .string "gpt" ∧
        ModelRouteConfig.fromValue entry.2 = .ok ⟨some "weighted",
          [⟨"main", none, 1, 5, true⟩, ⟨"relay", none, 100, 1, true⟩]⟩) ∧
      root'.get "upstreams" = none := by
  have hok : (expandInValue recordSerde explicitDocument (sortedOrder relayUpstreams)).isOk =
      true := by decide +kernel
  cases hexpand : expandInValue recordSerde explicitDocument (sortedOrder relayUpstreams) with
  | error message =>
      rw [hexpand] at hok
      cases hok
  | ok value' =>
      obtain ⟨-, hall⟩ := shortcut_expansion_preserves_configuration
        recordSerde_modelRoutesRoundTrip explicitDocument_wellFormed relayUpstreams
      obtain ⟨root, root', plans, ids, hroot, hroot', hplans, hids, hsections, -, hroutes, -,
        hnone, -⟩ := hall _ value' hexpand
      cases hroot
      -- the plan of the only shortcut
      have hentries : IdMap.sortedEntries relayUpstreams = [("relay", relayShortcut)] := rfl
      rw [hentries] at hplans
      cases hplans with
      | @cons _ plan _ rest hplan hrest =>
          cases hrest
          have hvalue : relayShortcut.plan "relay" = .ok _ := rfl
          obtain rfl := Except.ok.inj (hvalue.symm.trans hplan)
          have hpools := hsections .pools
          have haccounts := hsections .accounts
          rw [hids.pools] at hpools
          rw [hids.accounts] at haccounts
          exact ⟨value', _, root', rfl, rfl, hroot', hpools, haccounts,
            hroutes (.string "gpt", _) List.mem_cons_self _
              (ModelRouteConfig.fromValue_toValue _), hnone⟩

end OneAiKey
