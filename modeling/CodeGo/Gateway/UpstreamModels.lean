import CodeGo.Lib.Lines
import CodeGo.Lib.Text

set_option autoImplicit false

/- The models of a channel beside those of its upstream: what is pending, and applying a selection of it. -/

namespace CodeGo.Gateway.UpstreamModels

open Text

def normalizeModelNames (models : List String) : List String :=
  (models.filterMap fun modelName =>
    let trimmed := trimSpace modelName
    if trimmed ≠ "" then some trimmed else none).eraseDups

-- The names that were seen are those that are merged.
def mergeLoop : List String → List String → List String
  | merged, [] => merged
  | merged, modelName :: rest => if modelName ∈ merged then mergeLoop merged rest else mergeLoop (merged ++ [modelName]) rest

def mergeModelNames (base appended : List String) : List String := mergeLoop (normalizeModelNames base) (normalizeModelNames appended)

def subtractModelNames (base removed : List String) : List String :=
  let removeSet := normalizeModelNames removed
  (normalizeModelNames base).filter fun modelName => decide (modelName ∉ removeSet)

def intersectModelNames (base allowed : List String) : List String :=
  let allowedSet := normalizeModelNames allowed
  (normalizeModelNames base).filter fun modelName => decide (modelName ∈ allowedSet)

def applySelectedModelChanges (originModels addModels removeModels : List String) : List String :=
  let normalizedAdd := normalizeModelNames addModels
  let normalizedRemove := subtractModelNames (normalizeModelNames removeModels) normalizedAdd
  subtractModelNames (mergeModelNames originModels normalizedAdd) normalizedRemove

def cutPrefix (front text : String) : Option String :=
  if hasPrefix front text then some (String.ofList (text.toList.drop front.length)) else none

-- A pattern that does not compile matches nothing.
def ignores (matchString : String → String → Except String Bool) (modelName ignoredModel : String) : Bool :=
  match cutPrefix "regex:" ignoredModel with
  | some regexBody =>
      match matchString (trimSpace regexBody) modelName with
      | .ok matched => matched
      | .error _ => false
  | none => ignoredModel == modelName

def collectPendingUpstreamModelChangesFromModels (matchString : String → String → Except String Bool)
    (localModels upstreamModels ignoredModels : List String) (modelMapping : List (String × String)) : List String × List String :=
  let localModels := normalizeModelNames localModels
  let upstreamModels := normalizeModelNames upstreamModels
  let normalizedIgnoredModels := normalizeModelNames ignoredModels
  let redirectSourceSet := modelMapping.map Prod.fst
  let redirectTargetSet := modelMapping.map Prod.snd
  let coveredUpstreamSet := localModels ++ redirectTargetSet
  let pendingAdd := upstreamModels.filter fun modelName =>
    if modelName ∈ coveredUpstreamSet then false
    else !normalizedIgnoredModels.any fun ignoredModel => ignores matchString modelName ignoredModel
  let pendingRemove := localModels.filter fun modelName =>
    if modelName ∈ redirectSourceSet then false else decide (modelName ∉ upstreamModels)
  (normalizeModelNames pendingAdd, normalizeModelNames pendingRemove)

structure ChannelOtherSettings where
  upstreamModelUpdateIgnoredModels : List String := []
  upstreamModelUpdateLastDetectedModels : List String := []
  upstreamModelUpdateLastRemovedModels : List String := []
  upstreamModelUpdateLastCheckTime : Int := 0
deriving DecidableEq, Repr

structure Channel where
  models : String
  settings : ChannelOtherSettings := {}
deriving DecidableEq, Repr

def getModels (channel : Channel) : List String :=
  if channel.models = "" then []
  else
    let rawModels := (Segments.readParts ',' channel.models.toList).map String.ofList
    rawModels.filterMap fun model =>
      let model := trimSpace model
      if model ≠ "" then some model else none

def joinModels (models : List String) : String := String.ofList (Segments.join ',' (models.map String.toList))

structure Applied where
  addedModels : List String := []
  removedModels : List String := []
  remainingModels : List String := []
  remainingRemoveModels : List String := []
  modelsChanged : Bool := false
  err : Option String := none
deriving DecidableEq, Repr

def problemOf : Except String Unit → Option String
  | .error problem => some problem
  | .ok () => none

-- The answer with the channel as the store holds it afterwards; the two updates of the store are the caller's.
def applyChannelUpstreamModelUpdates (timestamp : Int) (updateSettings updateAbilities : Except String Unit) (channel : Channel)
    (addModelsInput ignoreModelsInput removeModelsInput : List String) : Applied × Channel :=
  let settings := channel.settings
  let pendingAddModels := normalizeModelNames settings.upstreamModelUpdateLastDetectedModels
  let pendingRemoveModels := normalizeModelNames settings.upstreamModelUpdateLastRemovedModels
  let addModels := intersectModelNames addModelsInput pendingAddModels
  let ignoreModels := intersectModelNames ignoreModelsInput pendingAddModels
  let removeModels := subtractModelNames (intersectModelNames removeModelsInput pendingRemoveModels) addModels
  let originModels := normalizeModelNames (getModels channel)
  let nextModels := applySelectedModelChanges originModels addModels removeModels
  let modelsChanged := originModels != nextModels
  let ignored := mergeModelNames settings.upstreamModelUpdateIgnoredModels ignoreModels
  let ignored := if 0 < addModels.length then subtractModelNames ignored addModels else ignored
  let remainingModels := subtractModelNames pendingAddModels (addModels ++ ignoreModels)
  let remainingRemoveModels := subtractModelNames pendingRemoveModels removeModels
  match updateSettings with
  | .error problem => ({ err := some problem }, channel)
  | .ok () =>
      ({ addedModels := addModels, removedModels := removeModels, remainingModels, remainingRemoveModels, modelsChanged,
         err := if modelsChanged then problemOf updateAbilities else none },
        { models := if modelsChanged then joinModels nextModels else channel.models
          settings :=
            { upstreamModelUpdateIgnoredModels := ignored
              upstreamModelUpdateLastDetectedModels := remainingModels
              upstreamModelUpdateLastRemovedModels := remainingRemoveModels
              upstreamModelUpdateLastCheckTime := timestamp } })

/- Lists of names that are trimmed, not empty and distinct. -/

def Name (modelName : String) : Prop := modelName ≠ "" ∧ trimSpace modelName = modelName

structure Normal (names : List String) : Prop where
  once : names.Nodup
  each : ∀ modelName ∈ names, Name modelName

def trimmed (modelName : String) : Option String := if trimSpace modelName ≠ "" then some (trimSpace modelName) else none

theorem normalize_eq (names : List String) : normalizeModelNames names = (names.filterMap trimmed).eraseDups := rfl

theorem mem_normalize (names : List String) (modelName : String) :
    modelName ∈ normalizeModelNames names ↔ modelName ≠ "" ∧ ∃ raw ∈ names, trimSpace raw = modelName := by
  rw [normalize_eq, List.mem_eraseDups, List.mem_filterMap]
  constructor
  · rintro ⟨raw, listed, kept⟩
    unfold trimmed at kept
    split at kept
    · rename_i present
      obtain rfl := Option.some.inj kept
      exact ⟨present, raw, listed, rfl⟩
    · cases kept
  · rintro ⟨present, raw, listed, rfl⟩
    exact ⟨raw, listed, if_pos present⟩

theorem mem_normalize_names {names : List String} (each : ∀ modelName ∈ names, Name modelName) (modelName : String) :
    modelName ∈ normalizeModelNames names ↔ modelName ∈ names := by
  rw [mem_normalize]
  constructor
  · rintro ⟨_, raw, listed, rfl⟩
    rw [(each raw listed).2]
    exact listed
  · intro listed
    exact ⟨(each modelName listed).1, modelName, listed, (each modelName listed).2⟩

theorem nodup_eraseDups (names : List String) : names.eraseDups.Nodup := by
  generalize size : names.length = bound
  induction bound using Nat.strong_induction_on generalizing names with
  | _ bound ih =>
      cases names with
      | nil => exact List.nodup_nil
      | cons first rest =>
          rw [List.eraseDups_cons, List.nodup_cons]
          have shorter : (rest.filter fun other => !other == first).length < bound := by
            have within := List.length_filter_le (fun other => !other == first) rest
            simp only [List.length_cons] at size
            omega
          refine ⟨?_, ih _ shorter _ rfl⟩
          simp [List.mem_eraseDups]

theorem eraseDups_of_nodup (names : List String) (once : names.Nodup) : names.eraseDups = names := by
  induction names with
  | nil => rfl
  | cons first rest ih =>
      obtain ⟨apart, others⟩ := List.nodup_cons.mp once
      have all : rest.filter (fun other => !other == first) = rest := by
        rw [List.filter_eq_self]
        intro other listed
        have different : other ≠ first := fun same => apart (same ▸ listed)
        simp [different]
      rw [List.eraseDups_cons, all, ih others]

theorem normalize_normal (names : List String) : Normal (normalizeModelNames names) := by
  refine ⟨nodup_eraseDups _, ?_⟩
  intro modelName listed
  obtain ⟨present, raw, _, rfl⟩ := (mem_normalize names modelName).mp listed
  exact ⟨present, trim_space_idem raw⟩

theorem Normal.normalize {names : List String} (normal : Normal names) : normalizeModelNames names = names := by
  have kept : names.filterMap trimmed = names := by
    have each : ∀ modelName ∈ names, trimmed modelName = some modelName := by
      intro modelName listed
      obtain ⟨present, tight⟩ := normal.each modelName listed
      rw [trimmed, tight, if_pos present]
    rw [List.filterMap_congr each, List.filterMap_some]
  rw [normalize_eq, kept, eraseDups_of_nodup names normal.once]

theorem Normal.filter {names : List String} (normal : Normal names) (keep : String → Bool) : Normal (names.filter keep) :=
  ⟨normal.once.filter keep, fun modelName listed => normal.each modelName (List.mem_of_mem_filter listed)⟩

theorem Normal.append {front back : List String} (normal : Normal front) (other : Normal back)
    (apart : ∀ modelName ∈ back, modelName ∉ front) : Normal (front ++ back) := by
  constructor
  · exact List.nodup_append.mpr ⟨normal.once, other.once, fun first before second after same => apart second after (same ▸ before)⟩
  · intro modelName listed
    obtain early | late := List.mem_append.mp listed
    · exact normal.each modelName early
    · exact other.each modelName late

theorem merge_loop (merged appended : List String) (once : appended.Nodup) :
    mergeLoop merged appended = merged ++ appended.filter fun modelName => decide (modelName ∉ merged) := by
  induction appended generalizing merged with
  | nil => simp [mergeLoop]
  | cons modelName rest ih =>
      obtain ⟨apart, others⟩ := List.nodup_cons.mp once
      rw [mergeLoop]
      by_cases seen : modelName ∈ merged
      · rw [if_pos seen, ih merged others, List.filter_cons_of_neg (by simpa using seen)]
      · have fresh : rest.filter (fun other => decide (other ∉ merged ++ [modelName])) =
            rest.filter fun other => decide (other ∉ merged) := by
          apply List.filter_congr
          intro other listed
          have different : other ≠ modelName := fun same => apart (same ▸ listed)
          simp [different]
        rw [if_neg seen, ih _ others, fresh, List.filter_cons_of_pos (by simpa using seen), List.append_assoc]
        rfl

/- On normal lists the chains of normalisations are filters. -/

section lists

variable {base other : List String}

theorem subtract_normal (normal : Normal base) (removed : Normal other) :
    subtractModelNames base other = base.filter fun modelName => decide (modelName ∉ other) := by
  simp only [subtractModelNames, normal.normalize, removed.normalize]

theorem merge_normal (normal : Normal base) (appended : Normal other) :
    mergeModelNames base other = base ++ other.filter fun modelName => decide (modelName ∉ base) := by
  rw [mergeModelNames, normal.normalize, appended.normalize, merge_loop base other appended.once]

theorem intersect_normal (names allowed : List String) : Normal (intersectModelNames names allowed) := (normalize_normal names).filter _

theorem mem_intersect (names : List String) (allowed : Normal other) (modelName : String) :
    modelName ∈ intersectModelNames names other ↔ modelName ∈ normalizeModelNames names ∧ modelName ∈ other := by
  simp only [intersectModelNames, allowed.normalize, List.mem_filter, decide_eq_true_eq]

theorem Normal.selected (normal : Normal other) (names : List String) {modelName : String} (pending : modelName ∈ other)
    (chosen : modelName ∈ names) : modelName ∈ intersectModelNames names other := by
  obtain ⟨present, tight⟩ := normal.each modelName pending
  rw [mem_intersect names normal, mem_normalize]
  exact ⟨⟨present, modelName, chosen, tight⟩, pending⟩

theorem mem_merge (names appended : List String) (modelName : String) :
    modelName ∈ mergeModelNames names appended ↔ modelName ∈ normalizeModelNames names ∨ modelName ∈ normalizeModelNames appended := by
  rw [mergeModelNames, merge_loop _ _ (normalize_normal appended).once, List.mem_append, List.mem_filter, decide_eq_true_eq]
  tauto

theorem merge_is_normal (names appended : List String) : Normal (mergeModelNames names appended) := by
  rw [mergeModelNames, merge_loop _ _ (normalize_normal appended).once]
  apply (normalize_normal names).append ((normalize_normal appended).filter _)
  intro modelName listed
  exact of_decide_eq_true (List.mem_filter.mp listed).2

theorem mem_subtract (names removed : List String) (modelName : String) :
    modelName ∈ subtractModelNames names removed ↔ modelName ∈ normalizeModelNames names ∧ modelName ∉ normalizeModelNames removed := by
  simp only [subtractModelNames, List.mem_filter, decide_eq_true_eq]

theorem subtract_is_normal (names removed : List String) : Normal (subtractModelNames names removed) := (normalize_normal names).filter _

end lists

-- Additions that are new and removals that are not added: what is left of the old names, then the new ones.
theorem apply_selected {origin add remove : List String} (originNormal : Normal origin) (addNormal : Normal add)
    (removeNormal : Normal remove) (fresh : ∀ modelName ∈ add, modelName ∉ origin) (apart : ∀ modelName ∈ remove, modelName ∉ add) :
    applySelectedModelChanges origin add remove = origin.filter (fun modelName => decide (modelName ∉ remove)) ++ add := by
  have removed : subtractModelNames remove add = remove := by
    rw [subtract_normal removeNormal addNormal, List.filter_eq_self]
    intro modelName listed
    exact decide_eq_true (apart modelName listed)
  have merged : mergeModelNames origin add = origin ++ add := by
    rw [merge_normal originNormal addNormal, List.filter_eq_self.mpr]
    intro modelName listed
    exact decide_eq_true (fresh modelName listed)
  have kept : add.filter (fun modelName => decide (modelName ∉ remove)) = add := by
    rw [List.filter_eq_self]
    intro modelName listed
    exact decide_eq_true fun gone => apart modelName gone listed
  simp only [applySelectedModelChanges, addNormal.normalize, removeNormal.normalize, removed, merged]
  rw [subtract_normal (originNormal.append addNormal fresh) removeNormal, List.filter_append, kept]

def Commaless (modelName : String) : Prop := ',' ∉ modelName.toList

theorem models_joined {names : List String} (normal : Normal names) (commaless : ∀ modelName ∈ names, Commaless modelName)
    (settings : ChannelOtherSettings) : getModels { models := joinModels names, settings } = names := by
  cases names with
  | nil => rfl
  | cons first rest =>
      have solid : ∀ part ∈ (first :: rest).map String.toList, part ≠ [] ∧ ',' ∉ part := by
        intro part listed
        obtain ⟨modelName, named, rfl⟩ := List.mem_map.mp listed
        exact ⟨fun empty => (normal.each modelName named).1 (by simpa using empty), commaless modelName named⟩
      have joined : (joinModels (first :: rest)).toList = Segments.join ',' ((first :: rest).map String.toList) := by
        rw [joinModels, String.toList_ofList]
      have nonempty : joinModels (first :: rest) ≠ "" := by
        intro empty
        rw [empty, List.map_cons, Segments.join] at joined
        exact (solid first.toList List.mem_cons_self).1 (List.append_eq_nil_iff.mp joined.symm).1
      have read : Segments.readParts ',' (Segments.join ',' ((first :: rest).map String.toList)) = (first :: rest).map String.toList := by
        apply (Segments.read_join (List.cons_ne_nil _ _) _).mpr
        · refine ⟨fun part listed => (solid part listed).2, ?_, ?_⟩
          · exact fun blank => (solid [] (List.mem_of_mem_head? blank)).1 rfl
          · exact fun blank => (solid [] (List.mem_of_getLast? blank)).1 rfl
        · intro blank
          have listed : [] ∈ (first :: rest).map String.toList := by
            rw [List.map_cons, blank]
            exact List.mem_singleton_self []
          exact (solid [] listed).1 rfl
      have each : ∀ modelName ∈ first :: rest, (if trimSpace modelName ≠ "" then some (trimSpace modelName) else none) = some modelName := by
        intro modelName listed
        obtain ⟨present, tight⟩ := normal.each modelName listed
        rw [tight, if_pos present]
      rw [getModels, if_neg nonempty, joined, read, List.map_map]
      have same : (first :: rest).map (String.ofList ∘ String.toList) = first :: rest := by
        simp
      dsimp only
      rw [same, List.filterMap_congr each, List.filterMap_some]

theorem trimSpace_chars (text : String) (c : Char) (listed : c ∈ (trimSpace text).toList) : c ∈ text.toList := by
  rw [trimSpace, String.toList_ofList, trimChars] at listed
  exact (List.dropWhile_sublist _).subset ((List.rdropWhile_prefix _ _).subset listed)

-- The names that are read from a channel hold no comma.
theorem models_commaless (channel : Channel) : ∀ modelName ∈ getModels channel, Commaless modelName := by
  intro modelName listed comma
  unfold getModels at listed
  split at listed
  · cases listed
  · obtain ⟨raw, split, kept⟩ := List.mem_filterMap.mp listed
    obtain ⟨part, among, rfl⟩ := List.mem_map.mp split
    have clean := Segments.read_parts_free channel.models.toList part among
    dsimp only at kept
    split at kept
    · obtain rfl := Option.some.inj kept
      have there := trimSpace_chars _ _ comma
      rw [String.toList_ofList] at there
      exact clean there
    · cases kept

theorem models_names (channel : Channel) : ∀ modelName ∈ getModels channel, Name modelName := by
  intro modelName listed
  unfold getModels at listed
  split at listed
  · cases listed
  · obtain ⟨raw, _, kept⟩ := List.mem_filterMap.mp listed
    dsimp only at kept
    split at kept
    · rename_i present
      obtain rfl := Option.some.inj kept
      exact ⟨present, trim_space_idem raw⟩
    · cases kept

/- Pending changes -/

section pending

variable (matchString : String → String → Except String Bool) (modelMapping : List (String × String))

def ignored (ignoredModels : List String) (modelName : String) : Bool :=
  (normalizeModelNames ignoredModels).any fun ignoredModel => ignores matchString modelName ignoredModel

def pendingAdd (localModels upstreamModels ignoredModels : List String) : List String :=
  (normalizeModelNames upstreamModels).filter fun modelName =>
    decide (modelName ∉ normalizeModelNames localModels ∧ modelName ∉ modelMapping.map Prod.snd) && !ignored matchString ignoredModels modelName

def pendingRemove (localModels upstreamModels : List String) : List String :=
  (normalizeModelNames localModels).filter fun modelName =>
    decide (modelName ∉ modelMapping.map Prod.fst ∧ modelName ∉ normalizeModelNames upstreamModels)

theorem collect_eq (localModels upstreamModels ignoredModels : List String) :
    collectPendingUpstreamModelChangesFromModels matchString localModels upstreamModels ignoredModels modelMapping =
      (pendingAdd matchString modelMapping localModels upstreamModels ignoredModels,
        pendingRemove modelMapping localModels upstreamModels) := by
  have additions : (normalizeModelNames upstreamModels).filter (fun modelName =>
      if modelName ∈ normalizeModelNames localModels ++ modelMapping.map Prod.snd then false
      else !(normalizeModelNames ignoredModels).any fun ignoredModel => ignores matchString modelName ignoredModel) =
        pendingAdd matchString modelMapping localModels upstreamModels ignoredModels := by
    apply List.filter_congr
    intro modelName _
    by_cases covered : modelName ∈ normalizeModelNames localModels ++ modelMapping.map Prod.snd
    · rw [if_pos covered]
      rw [List.mem_append] at covered
      have either : ¬ (modelName ∉ normalizeModelNames localModels ∧ modelName ∉ modelMapping.map Prod.snd) := by tauto
      rw [decide_eq_false either, Bool.false_and]
    · rw [if_neg covered]
      rw [List.mem_append, not_or] at covered
      rw [decide_eq_true covered, Bool.true_and, ignored]
  have removals : (normalizeModelNames localModels).filter (fun modelName =>
      if modelName ∈ modelMapping.map Prod.fst then false else decide (modelName ∉ normalizeModelNames upstreamModels)) =
        pendingRemove modelMapping localModels upstreamModels := by
    apply List.filter_congr
    intro modelName _
    by_cases source : modelName ∈ modelMapping.map Prod.fst
    · simp [source]
    · simp [source]
  have addNormal : Normal (pendingAdd matchString modelMapping localModels upstreamModels ignoredModels) :=
    (normalize_normal upstreamModels).filter _
  have removeNormal : Normal (pendingRemove modelMapping localModels upstreamModels) := (normalize_normal localModels).filter _
  simp only [collectPendingUpstreamModelChangesFromModels]
  rw [additions, removals, addNormal.normalize, removeNormal.normalize]

variable {matchString modelMapping}

def Plain (modelName : String) : Prop := hasPrefix "regex:" modelName = false

theorem ignores_plain {modelName entry : String} (plain : Plain entry) : ignores matchString modelName entry = (entry == modelName) := by
  rw [ignores, cutPrefix, if_neg (by rw [plain]; exact Bool.false_ne_true)]

-- The entries that stay ignored after names were ignored and others added.
theorem ignored_after {before after add skip : List String} {modelName : String}
    (entries : ∀ entry, entry ∈ normalizeModelNames after ↔ (entry ∈ normalizeModelNames before ∨ entry ∈ skip) ∧ entry ∉ add)
    (plainAdd : ∀ entry ∈ add, Plain entry) (plainSkip : ∀ entry ∈ skip, Plain entry) (other : modelName ∉ add) :
    ignored matchString after modelName = (ignored matchString before modelName || decide (modelName ∈ skip)) := by
  rw [Bool.eq_iff_iff, Bool.or_eq_true, decide_eq_true_eq, ignored, ignored, List.any_eq_true, List.any_eq_true]
  constructor
  · rintro ⟨entry, listed, hit⟩
    obtain ⟨early | skipped, _⟩ := (entries entry).mp listed
    · exact Or.inl ⟨entry, early, hit⟩
    · rw [ignores_plain (plainSkip entry skipped), beq_iff_eq] at hit
      exact Or.inr (hit ▸ skipped)
  · rintro (⟨entry, listed, hit⟩ | skipped)
    · refine ⟨entry, (entries entry).mpr ⟨Or.inl listed, ?_⟩, hit⟩
      intro added
      rw [ignores_plain (plainAdd entry added), beq_iff_eq] at hit
      exact other (hit ▸ added)
    · refine ⟨modelName, (entries modelName).mpr ⟨Or.inr skipped, other⟩, ?_⟩
      rw [ignores_plain (plainSkip modelName skipped), beq_self_eq_true]

theorem mem_pendingAdd {localModels upstreamModels ignoredModels : List String} {modelName : String} :
    modelName ∈ pendingAdd matchString modelMapping localModels upstreamModels ignoredModels ↔
      modelName ∈ normalizeModelNames upstreamModels ∧
        (modelName ∉ normalizeModelNames localModels ∧ modelName ∉ modelMapping.map Prod.snd) ∧
          ignored matchString ignoredModels modelName = false := by
  rw [pendingAdd, List.mem_filter, Bool.and_eq_true, decide_eq_true_eq, Bool.not_eq_true']

theorem mem_pendingRemove {localModels upstreamModels : List String} {modelName : String} :
    modelName ∈ pendingRemove modelMapping localModels upstreamModels ↔
      modelName ∈ normalizeModelNames localModels ∧
        modelName ∉ modelMapping.map Prod.fst ∧ modelName ∉ normalizeModelNames upstreamModels := by
  rw [pendingRemove, List.mem_filter, decide_eq_true_eq]

/- A selection `add`, `skip`, `remove` of what is pending, the names and the ignored entries after it. -/

section selection

variable {localModels upstreamModels ignoredModels add skip remove names after : List String}

theorem pendingAdd_after (plain : ∀ modelName ∈ normalizeModelNames upstreamModels, Plain modelName)
    (adds : ∀ modelName ∈ add, modelName ∈ pendingAdd matchString modelMapping localModels upstreamModels ignoredModels)
    (skips : ∀ modelName ∈ skip, modelName ∈ pendingAdd matchString modelMapping localModels upstreamModels ignoredModels)
    (removes : ∀ modelName ∈ remove, modelName ∈ pendingRemove modelMapping localModels upstreamModels)
    (next : normalizeModelNames names =
      (normalizeModelNames localModels).filter (fun modelName => decide (modelName ∉ remove)) ++ add)
    (entries : ∀ entry, entry ∈ normalizeModelNames after ↔ (entry ∈ normalizeModelNames ignoredModels ∨ entry ∈ skip) ∧ entry ∉ add) :
    pendingAdd matchString modelMapping names upstreamModels after =
      (pendingAdd matchString modelMapping localModels upstreamModels ignoredModels).filter
        fun modelName => decide (modelName ∉ add ∧ modelName ∉ skip) := by
  have upstreamPlain (selected : List String)
      (pending : ∀ modelName ∈ selected, modelName ∈ pendingAdd matchString modelMapping localModels upstreamModels ignoredModels) :
      ∀ entry ∈ selected, Plain entry := by
    intro entry listed
    exact plain entry (mem_pendingAdd.mp (pending entry listed)).1
  rw [pendingAdd, pendingAdd, List.filter_filter]
  apply List.filter_congr
  intro modelName upstream
  by_cases added : modelName ∈ add
  · have there : modelName ∈ normalizeModelNames names := by
      rw [next]
      exact List.mem_append_right _ added
    simp [added, there]
  · have ignoring := @ignored_after matchString _ _ _ _ _ entries (upstreamPlain add adds) (upstreamPlain skip skips) added
    have kept : modelName ∉ remove := by
      intro gone
      exact (mem_pendingRemove.mp (removes modelName gone)).2.2 upstream
    have same : modelName ∈ normalizeModelNames names ↔ modelName ∈ normalizeModelNames localModels := by
      rw [next, List.mem_append, List.mem_filter, decide_eq_true_eq]
      tauto
    rw [ignoring]
    by_cases skipped : modelName ∈ skip
    · simp [skipped]
    · simp [same, added, skipped]

theorem pendingRemove_after
    (adds : ∀ modelName ∈ add, modelName ∈ pendingAdd matchString modelMapping localModels upstreamModels ignoredModels)
    (next : normalizeModelNames names =
      (normalizeModelNames localModels).filter (fun modelName => decide (modelName ∉ remove)) ++ add) :
    pendingRemove modelMapping names upstreamModels =
      (pendingRemove modelMapping localModels upstreamModels).filter fun modelName => decide (modelName ∉ remove) := by
  have nothing : add.filter (fun modelName =>
      decide (modelName ∉ modelMapping.map Prod.fst ∧ modelName ∉ normalizeModelNames upstreamModels)) = [] := by
    rw [List.filter_eq_nil_iff]
    intro modelName added
    have there := (mem_pendingAdd.mp (adds modelName added)).1
    simp [there]
  rw [pendingRemove, next, List.filter_append, nothing, List.append_nil, pendingRemove, List.filter_filter, List.filter_filter]
  apply List.filter_congr
  intro modelName _
  rw [Bool.and_comm]

end selection

end pending

/- Applying a selection -/

section applying

variable (timestamp : Int) (updateAbilities : Except String Unit) (channel : Channel) (addModels ignoreModels removeModels : List String)

def selectedAdds : List String := intersectModelNames addModels channel.settings.upstreamModelUpdateLastDetectedModels

def selectedIgnores : List String := intersectModelNames ignoreModels channel.settings.upstreamModelUpdateLastDetectedModels

-- The removals that are not added as well.
def selectedRemoves : List String :=
  (intersectModelNames removeModels channel.settings.upstreamModelUpdateLastRemovedModels).filter
    fun modelName => decide (modelName ∉ selectedAdds channel addModels)

def nextModels : List String :=
  (normalizeModelNames (getModels channel)).filter (fun modelName => decide (modelName ∉ selectedRemoves channel addModels removeModels)) ++
    selectedAdds channel addModels

def applied : Applied × Channel :=
  applyChannelUpstreamModelUpdates timestamp (.ok ()) updateAbilities channel addModels ignoreModels removeModels

variable {channel} {matchString : String → String → Except String Bool} {upstreamModels : List String} {modelMapping : List (String × String)}

-- The pending lists of the channel are those just computed.
def Computed (matchString : String → String → Except String Bool) (upstreamModels : List String) (modelMapping : List (String × String))
    (channel : Channel) : Prop :=
  collectPendingUpstreamModelChangesFromModels matchString (getModels channel) upstreamModels
      channel.settings.upstreamModelUpdateIgnoredModels modelMapping =
    (channel.settings.upstreamModelUpdateLastDetectedModels, channel.settings.upstreamModelUpdateLastRemovedModels)

theorem Computed.detected (computed : Computed matchString upstreamModels modelMapping channel) :
    channel.settings.upstreamModelUpdateLastDetectedModels =
      pendingAdd matchString modelMapping (getModels channel) upstreamModels channel.settings.upstreamModelUpdateIgnoredModels := by
  rw [Computed, collect_eq] at computed
  exact (Prod.mk.inj computed).1.symm

theorem Computed.removed (computed : Computed matchString upstreamModels modelMapping channel) :
    channel.settings.upstreamModelUpdateLastRemovedModels = pendingRemove modelMapping (getModels channel) upstreamModels := by
  rw [Computed, collect_eq] at computed
  exact (Prod.mk.inj computed).2.symm

theorem Computed.detected_normal (computed : Computed matchString upstreamModels modelMapping channel) :
    Normal channel.settings.upstreamModelUpdateLastDetectedModels := by
  rw [computed.detected]
  exact (normalize_normal upstreamModels).filter _

theorem Computed.removed_normal (computed : Computed matchString upstreamModels modelMapping channel) :
    Normal channel.settings.upstreamModelUpdateLastRemovedModels := by
  rw [computed.removed]
  exact (normalize_normal (getModels channel)).filter _

theorem Computed.adds_pending (computed : Computed matchString upstreamModels modelMapping channel) :
    ∀ modelName ∈ selectedAdds channel addModels, modelName ∈ channel.settings.upstreamModelUpdateLastDetectedModels := by
  intro modelName listed
  exact ((mem_intersect addModels computed.detected_normal modelName).mp listed).2

theorem Computed.removes_pending (computed : Computed matchString upstreamModels modelMapping channel) :
    ∀ modelName ∈ selectedRemoves channel addModels removeModels, modelName ∈ channel.settings.upstreamModelUpdateLastRemovedModels := by
  intro modelName listed
  exact ((mem_intersect removeModels computed.removed_normal modelName).mp (List.mem_of_mem_filter listed)).2

theorem selectedRemoves_normal : Normal (selectedRemoves channel addModels removeModels) := (intersect_normal _ _).filter _

theorem Computed.adds_fresh (computed : Computed matchString upstreamModels modelMapping channel) :
    ∀ modelName ∈ selectedAdds channel addModels, modelName ∉ normalizeModelNames (getModels channel) := by
  intro modelName listed
  have pending := computed.adds_pending addModels modelName listed
  rw [computed.detected] at pending
  exact (mem_pendingAdd.mp pending).2.1.1

theorem Computed.next_normal (computed : Computed matchString upstreamModels modelMapping channel) :
    Normal (nextModels channel addModels removeModels) := by
  apply ((normalize_normal _).filter _).append (intersect_normal _ _)
  intro modelName listed kept
  exact computed.adds_fresh addModels modelName listed (List.mem_of_mem_filter kept)

theorem Computed.next_commaless (computed : Computed matchString upstreamModels modelMapping channel)
    (commaless : ∀ modelName ∈ upstreamModels, Commaless modelName) : ∀ modelName ∈ nextModels channel addModels removeModels, Commaless modelName := by
  have normalized (names : List String) (free : ∀ modelName ∈ names, Commaless modelName) :
      ∀ modelName ∈ normalizeModelNames names, Commaless modelName := by
    intro modelName listed comma
    obtain ⟨_, raw, there, rfl⟩ := (mem_normalize names modelName).mp listed
    exact free raw there (trimSpace_chars raw _ comma)
  intro modelName listed
  obtain old | new := List.mem_append.mp listed
  · exact normalized _ (models_commaless channel) modelName (List.mem_of_mem_filter old)
  · have pending := computed.adds_pending addModels modelName new
    rw [computed.detected] at pending
    exact normalized _ commaless modelName (mem_pendingAdd.mp pending).1

theorem Computed.next_applied (computed : Computed matchString upstreamModels modelMapping channel) :
    applySelectedModelChanges (normalizeModelNames (getModels channel)) (selectedAdds channel addModels)
      (selectedRemoves channel addModels removeModels) = nextModels channel addModels removeModels := by
  apply apply_selected (normalize_normal _) (intersect_normal _ _) (selectedRemoves_normal addModels removeModels) (computed.adds_fresh addModels)
  intro modelName listed
  exact of_decide_eq_true (List.mem_filter.mp listed).2

def ignoredModels : List String :=
  let merged := mergeModelNames channel.settings.upstreamModelUpdateIgnoredModels (selectedIgnores channel ignoreModels)
  if 0 < (selectedAdds channel addModels).length then subtractModelNames merged (selectedAdds channel addModels) else merged

theorem Computed.applied_eq (computed : Computed matchString upstreamModels modelMapping channel) :
    applied timestamp updateAbilities channel addModels ignoreModels removeModels =
      ({ addedModels := selectedAdds channel addModels, removedModels := selectedRemoves channel addModels removeModels
         remainingModels := subtractModelNames channel.settings.upstreamModelUpdateLastDetectedModels
           (selectedAdds channel addModels ++ selectedIgnores channel ignoreModels)
         remainingRemoveModels := subtractModelNames channel.settings.upstreamModelUpdateLastRemovedModels
           (selectedRemoves channel addModels removeModels)
         modelsChanged := normalizeModelNames (getModels channel) != nextModels channel addModels removeModels
         err := if normalizeModelNames (getModels channel) != nextModels channel addModels removeModels then problemOf updateAbilities
           else none },
        { models := if normalizeModelNames (getModels channel) != nextModels channel addModels removeModels then
            joinModels (nextModels channel addModels removeModels) else channel.models
          settings :=
            { upstreamModelUpdateIgnoredModels := @ignoredModels channel addModels ignoreModels
              upstreamModelUpdateLastDetectedModels := subtractModelNames channel.settings.upstreamModelUpdateLastDetectedModels
                (selectedAdds channel addModels ++ selectedIgnores channel ignoreModels)
              upstreamModelUpdateLastRemovedModels := subtractModelNames channel.settings.upstreamModelUpdateLastRemovedModels
                (selectedRemoves channel addModels removeModels)
              upstreamModelUpdateLastCheckTime := timestamp } }) := by
  have removes : subtractModelNames (intersectModelNames removeModels channel.settings.upstreamModelUpdateLastRemovedModels)
      (selectedAdds channel addModels) = selectedRemoves channel addModels removeModels :=
    subtract_normal (intersect_normal _ _) (intersect_normal _ _)
  have next := computed.next_applied addModels removeModels
  rw [← removes] at next
  rw [applied, applyChannelUpstreamModelUpdates]
  simp only [computed.detected_normal.normalize, computed.removed_normal.normalize]
  rw [← selectedAdds, ← selectedIgnores, next, removes]
  rfl

theorem ignored_entries (entry : String) :
    entry ∈ normalizeModelNames (@ignoredModels channel addModels ignoreModels) ↔
      (entry ∈ normalizeModelNames channel.settings.upstreamModelUpdateIgnoredModels ∨ entry ∈ selectedIgnores channel ignoreModels) ∧
        entry ∉ selectedAdds channel addModels := by
  have merged : entry ∈ mergeModelNames channel.settings.upstreamModelUpdateIgnoredModels (selectedIgnores channel ignoreModels) ↔
      entry ∈ normalizeModelNames channel.settings.upstreamModelUpdateIgnoredModels ∨ entry ∈ selectedIgnores channel ignoreModels := by
    rw [mem_merge, (show Normal (selectedIgnores channel ignoreModels) from intersect_normal _ _).normalize]
  have addNormal : Normal (selectedAdds channel addModels) := intersect_normal _ _
  have mergedNormal := merge_is_normal channel.settings.upstreamModelUpdateIgnoredModels (selectedIgnores channel ignoreModels)
  simp only [ignoredModels]
  by_cases some : 0 < (selectedAdds channel addModels).length
  · rw [if_pos some, (subtract_is_normal _ _).normalize, mem_subtract, mergedNormal.normalize, addNormal.normalize, merged]
  · have none : selectedAdds channel addModels = [] := List.length_eq_zero_iff.mp (by omega)
    rw [if_neg some, mergedNormal.normalize, merged, none]
    simp

theorem Computed.remaining_adds (computed : Computed matchString upstreamModels modelMapping channel) :
    subtractModelNames channel.settings.upstreamModelUpdateLastDetectedModels
        (selectedAdds channel addModels ++ selectedIgnores channel ignoreModels) =
      channel.settings.upstreamModelUpdateLastDetectedModels.filter
        fun modelName => decide (modelName ∉ selectedAdds channel addModels ∧ modelName ∉ selectedIgnores channel ignoreModels) := by
  have names : ∀ modelName ∈ selectedAdds channel addModels ++ selectedIgnores channel ignoreModels, Name modelName := by
    intro modelName listed
    obtain added | skipped := List.mem_append.mp listed
    · exact (intersect_normal _ _).each modelName added
    · exact (intersect_normal _ _).each modelName skipped
  simp only [subtractModelNames, computed.detected_normal.normalize]
  apply List.filter_congr
  intro modelName _
  apply decide_eq_decide.mpr
  rw [mem_normalize_names names, List.mem_append, not_or]

theorem Computed.models_after (computed : Computed matchString upstreamModels modelMapping channel)
    (commaless : ∀ modelName ∈ upstreamModels, Commaless modelName) :
    getModels (applied timestamp updateAbilities channel addModels ignoreModels removeModels).2 =
      if nextModels channel addModels removeModels = normalizeModelNames (getModels channel) then getModels channel
      else nextModels channel addModels removeModels := by
  rw [computed.applied_eq]
  by_cases same : nextModels channel addModels removeModels = normalizeModelNames (getModels channel)
  · rw [if_pos same, same, bne_self_eq_false]
    rfl
  · have changed : (normalizeModelNames (getModels channel) != nextModels channel addModels removeModels) = true := by
      rw [bne_iff_ne]
      exact Ne.symm same
    rw [if_neg same, changed, if_pos rfl]
    exact models_joined (computed.next_normal addModels removeModels) (computed.next_commaless addModels removeModels commaless) _

theorem Computed.normalized_after (computed : Computed matchString upstreamModels modelMapping channel)
    (commaless : ∀ modelName ∈ upstreamModels, Commaless modelName) :
    normalizeModelNames (getModels (applied timestamp updateAbilities channel addModels ignoreModels removeModels).2) =
      nextModels channel addModels removeModels := by
  rw [computed.models_after timestamp updateAbilities addModels ignoreModels removeModels commaless]
  split
  · rename_i same
    exact same.symm
  · exact (computed.next_normal addModels removeModels).normalize

theorem Computed.settings_after (computed : Computed matchString upstreamModels modelMapping channel) :
    (applied timestamp updateAbilities channel addModels ignoreModels removeModels).2.settings =
      { upstreamModelUpdateIgnoredModels := @ignoredModels channel addModels ignoreModels
        upstreamModelUpdateLastDetectedModels := (applied timestamp updateAbilities channel addModels ignoreModels removeModels).1.remainingModels
        upstreamModelUpdateLastRemovedModels :=
          (applied timestamp updateAbilities channel addModels ignoreModels removeModels).1.remainingRemoveModels
        upstreamModelUpdateLastCheckTime := timestamp } := by
  rw [computed.applied_eq]

theorem Computed.remaining (computed : Computed matchString upstreamModels modelMapping channel) :
    (applied timestamp updateAbilities channel addModels ignoreModels removeModels).1.remainingModels =
        channel.settings.upstreamModelUpdateLastDetectedModels.filter
          (fun modelName => decide (modelName ∉ selectedAdds channel addModels ∧ modelName ∉ selectedIgnores channel ignoreModels)) ∧
      (applied timestamp updateAbilities channel addModels ignoreModels removeModels).1.remainingRemoveModels =
        channel.settings.upstreamModelUpdateLastRemovedModels.filter
          (fun modelName => decide (modelName ∉ selectedRemoves channel addModels removeModels)) := by
  rw [computed.applied_eq]
  exact ⟨computed.remaining_adds addModels ignoreModels,
    subtract_normal computed.removed_normal (selectedRemoves_normal addModels removeModels)⟩

-- The pending lists that an application stores are those that would be computed after it.
theorem Computed.recomputed (computed : Computed matchString upstreamModels modelMapping channel)
    (commaless : ∀ modelName ∈ upstreamModels, Commaless modelName)
    (plain : ∀ modelName ∈ normalizeModelNames upstreamModels, Plain modelName) :
    Computed matchString upstreamModels modelMapping (applied timestamp updateAbilities channel addModels ignoreModels removeModels).2 := by
  have next := computed.normalized_after timestamp updateAbilities addModels ignoreModels removeModels commaless
  have adds := computed.adds_pending addModels
  have skips : ∀ modelName ∈ selectedIgnores channel ignoreModels, modelName ∈ channel.settings.upstreamModelUpdateLastDetectedModels :=
    fun modelName listed => ((mem_intersect ignoreModels computed.detected_normal modelName).mp listed).2
  have removes := computed.removes_pending addModels removeModels
  obtain ⟨remainingAdds, remainingRemoves⟩ := computed.remaining timestamp updateAbilities addModels ignoreModels removeModels
  rw [computed.detected] at adds skips
  rw [computed.removed] at removes
  rw [Computed, collect_eq, computed.settings_after, remainingAdds, remainingRemoves, computed.detected, computed.removed]
  exact Prod.ext (pendingAdd_after plain adds skips removes next (ignored_entries addModels ignoreModels)) (pendingRemove_after adds next)

-- What an application leaves: the names, where they can have come from, and exactly the rest pending.
theorem apply_leaves_the_rest (matchString : String → String → Except String Bool) (upstreamModels : List String)
    (modelMapping : List (String × String)) (channel : Channel) (timestamp : Int) (updateAbilities : Except String Unit)
    (addModels ignoreModels removeModels : List String)
    (commaless : ∀ modelName ∈ upstreamModels, Commaless modelName)
    (plain : ∀ modelName ∈ normalizeModelNames upstreamModels, Plain modelName)
    (computed : Computed matchString upstreamModels modelMapping channel) :
    getModels (applied timestamp updateAbilities channel addModels ignoreModels removeModels).2 =
        (if nextModels channel addModels removeModels = normalizeModelNames (getModels channel) then getModels channel
        else nextModels channel addModels removeModels) ∧
      (∀ modelName ∈ getModels (applied timestamp updateAbilities channel addModels ignoreModels removeModels).2,
        modelName ∈ getModels channel ∨ modelName ∈ channel.settings.upstreamModelUpdateLastDetectedModels) ∧
      (∀ modelName ∈ getModels channel,
        modelName ∉ getModels (applied timestamp updateAbilities channel addModels ignoreModels removeModels).2 →
          modelName ∈ channel.settings.upstreamModelUpdateLastRemovedModels) ∧
      collectPendingUpstreamModelChangesFromModels matchString
          (getModels (applied timestamp updateAbilities channel addModels ignoreModels removeModels).2) upstreamModels
          (applied timestamp updateAbilities channel addModels ignoreModels removeModels).2.settings.upstreamModelUpdateIgnoredModels
          modelMapping =
        ((applied timestamp updateAbilities channel addModels ignoreModels removeModels).1.remainingModels,
          (applied timestamp updateAbilities channel addModels ignoreModels removeModels).1.remainingRemoveModels) ∧
      ((∀ modelName ∈ channel.settings.upstreamModelUpdateLastDetectedModels, modelName ∈ addModels) →
        (∀ modelName ∈ channel.settings.upstreamModelUpdateLastRemovedModels, modelName ∈ removeModels) →
        (applied timestamp updateAbilities channel addModels ignoreModels removeModels).1.remainingModels = [] ∧
          (applied timestamp updateAbilities channel addModels ignoreModels removeModels).1.remainingRemoveModels = []) := by
  have models := computed.models_after timestamp updateAbilities addModels ignoreModels removeModels commaless
  have next := computed.normalized_after timestamp updateAbilities addModels ignoreModels removeModels commaless
  have recomputed := computed.recomputed timestamp updateAbilities addModels ignoreModels removeModels commaless plain
  obtain ⟨remainingAdds, remainingRemoves⟩ := computed.remaining timestamp updateAbilities addModels ignoreModels removeModels
  refine ⟨models, ?_, ?_, ?_, ?_⟩
  · intro modelName listed
    rw [models] at listed
    split at listed
    · exact Or.inl listed
    · obtain old | new := List.mem_append.mp listed
      · exact Or.inl ((mem_normalize_names (models_names channel) modelName).mp (List.mem_of_mem_filter old))
      · exact Or.inr (computed.adds_pending addModels modelName new)
  · intro modelName listed gone
    rw [models] at gone
    split at gone
    · exact absurd listed gone
    · have former : modelName ∈ normalizeModelNames (getModels channel) := (mem_normalize_names (models_names channel) modelName).mpr listed
      apply computed.removes_pending addModels removeModels modelName
      by_contra kept
      exact gone (List.mem_append_left _ (List.mem_filter.mpr ⟨former, decide_eq_true kept⟩))
  · rw [Computed, computed.settings_after] at recomputed
    rw [computed.settings_after]
    exact recomputed
  · intro allAdded allRemoved
    rw [remainingAdds, remainingRemoves, List.filter_eq_nil_iff, List.filter_eq_nil_iff]
    constructor
    · intro modelName listed
      have chosen := computed.detected_normal.selected addModels listed (allAdded modelName listed)
      simp [show modelName ∈ selectedAdds channel addModels from chosen]
    · intro modelName listed
      have chosen := computed.removed_normal.selected removeModels listed (allRemoved modelName listed)
      have notAdded : modelName ∉ selectedAdds channel addModels := by
        intro added
        have upstream := computed.adds_pending addModels modelName added
        rw [computed.detected] at upstream
        rw [computed.removed] at listed
        exact (mem_pendingRemove.mp listed).2.2 (mem_pendingAdd.mp upstream).1
      simp [selectedRemoves, chosen, notAdded]

end applying

def pendingChannel : Channel :=
  { models := "gpt-4o,old"
    settings := { upstreamModelUpdateLastDetectedModels := ["o3", "o4"], upstreamModelUpdateLastRemovedModels := ["old"] } }

theorem apply_leaves_the_rest_o4 :
    getModels (applied 1 (.ok ()) pendingChannel ["o3"] [] ["old"]).2 =
      if nextModels pendingChannel ["o3"] ["old"] = normalizeModelNames (getModels pendingChannel) then getModels pendingChannel
      else nextModels pendingChannel ["o3"] ["old"] :=
  (apply_leaves_the_rest (fun _ _ => .ok false) ["gpt-4o", "o3", "o4"] [] pendingChannel 1 (.ok ()) ["o3"] [] ["old"]
    (by unfold Commaless; decide +kernel) (by unfold Plain; decide +kernel) (by unfold Computed; decide +kernel)).1

-- Names that are stored twice stay so where the selection changes nothing.
theorem repetition_stays :
    ¬ ∀ (matchString : String → String → Except String Bool) (upstreamModels : List String) (channel : Channel),
      (∀ modelName ∈ upstreamModels, Commaless modelName) → (∀ modelName ∈ normalizeModelNames upstreamModels, Plain modelName) →
      Computed matchString upstreamModels [] channel →
        getModels (applied 1 (.ok ()) channel [] [] []).2 = nextModels channel [] [] := by
  intro same
  have twice := same (fun _ _ => .ok false) ["gpt-4o"] { models := "gpt-4o,gpt-4o" }
    (by unfold Commaless; decide +kernel) (by unfold Plain; decide +kernel) (by unfold Computed; decide +kernel)
  revert twice
  decide +kernel

end CodeGo.Gateway.UpstreamModels
