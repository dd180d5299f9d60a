import DeepRouter.Library.Atomic
import DeepRouter.Library.JsonTree
import DeepRouter.Relay.HeaderOverride

/-! # Pruning of objects by their fields -/

namespace DeepRouter.Relay.Prune

open Atomic List

def typeName : Json → String
  | .null => "Null"
  | .bool value => if value then "True" else "False"
  | .num _ => "Number"
  | .str _ => "String"
  | .arr _ | .obj _ => "JSON"

/-- The values of a context as they are marshalled. -/
def contextJSON (errorType : ApiError → String) (context : OverrideContext) : HeaderMap :=
  let optional (name : String) (value : Option String) : HeaderMap :=
    (value.map fun text => (name, .str text)).toList
  let isRetry : Json := .bool (context.retryIndex > 0)
  optional "model" context.model ++ optional "upstream_model" context.upstreamModel ++
  optional "original_model" context.originalModel ++ optional "request_path" context.requestPath ++
  [("request_headers", .obj context.requestHeaders),
    ("header_override", .obj context.headerOverride), ("retry_index", .num context.retryIndex),
    ("is_retry", isRetry),
    ("retry", .obj [("index", .num context.retryIndex), ("is_retry", isRetry)])] ++
  (match context.lastError with
    | none => []
    | some err => [
      ("last_error", .obj [("status_code", .num err.statusCode), ("message", .str err.message),
        ("code", .str err.errorCode), ("error_code", .str err.errorCode),
        ("type", .str (errorType err)), ("error_type", .str (errorType err)),
        ("skip_retry", .bool err.skipRetry)]),
      ("last_error_status_code", .num err.statusCode), ("last_error_message", .str err.message),
      ("last_error_code", .str err.errorCode), ("last_error_type", .str (errorType err))]) ++
  [("is_channel_test", .bool context.isChannelTest)]

def builtContext {β : Type} (env : OverrideEnv β) (errorType : ApiError → String) :
    Option OverrideInfo → HeaderMap
  | none => []
  | some info => contextJSON errorType (buildParamOverrideContext env info)

structure PruneObjectsOptions where
  conditions : List ConditionOperation
  logic : String := "AND"
  recursive : Bool := true

/-- The options and the context of a call, with the comparisons in other modes than `full`. -/
structure Pruning where
  options : PruneObjectsOptions
  context : HeaderMap
  compareOther : Json → Json → String → Except String Bool
  text : Json → String
  (lower upper : String → String)

section

variable (s : Pruning)

def compareEqual (value target : Json) : Except String Bool :=
  match value, target with
  | .null, .null => .ok true
  | .null, _ | _, .null => .ok false
  | .bool value, .bool target => .ok (value == target)
  | .num value, .num target => .ok (value == target)
  | .str value, .str target => .ok (value == target)
  | .arr _, .arr _ | .arr _, .obj _ | .obj _, .arr _ | .obj _, .obj _ =>
    .ok (s.text value == s.text target)
  | value, target => .error ("compare for different types, got " ++ typeName value ++ " and " ++
      typeName target)

def compareGjsonValues (value target : Json) (mode : String) : Except String Bool :=
  if mode = "full" then compareEqual s value target else s.compareOther value target mode

/-- The path is a name without a dot, so there is no negative index in it. -/
def checkSingleCondition (fields : HeaderMap) (condition : ConditionOperation) :
    Except OverrideError Bool :=
  match (fields.lookup condition.path).or (s.context.lookup condition.path) with
  | none => .ok condition.passMissingKey
  | some value =>
    match compareGjsonValues s value condition.value (s.lower condition.mode) with
    | .ok result => .ok (if condition.invert then !result else result)
    | .error err =>
      .error (.failed ("comparison failed for path " ++ condition.path ++ ": " ++ err))

def checkConditions (fields : HeaderMap) (conditions : List ConditionOperation) (logic : String) :
    Except OverrideError Bool :=
  if conditions.isEmpty then .ok true
  else do
    let results ← conditions.mapM (checkSingleCondition s fields)
    .ok (if s.upper logic = "AND" then results.all id else results.any id)

def shouldPruneObject (fields : HeaderMap) : Except OverrideError Bool :=
  checkConditions s fields s.options.conditions s.options.logic

mutual

def pruneObjectsNode (isRoot : Bool) : Json → Except OverrideError (Option Json)
  | .arr items => do
    let result ← pruneArray items
    .ok (some (.arr result))
  | .obj fields => do
    let shouldDrop ← shouldPruneObject s fields
    if shouldDrop && !isRoot then .ok none
    else if !s.options.recursive then .ok (some (.obj fields))
    else do
      let result ← pruneMap fields
      .ok (some (.obj result))
  | node => .ok (some node)

def pruneArray : List Json → Except OverrideError (List Json)
  | [] => .ok []
  | item :: items => do
    let next ← pruneObjectsNode false item
    let rest ← pruneArray items
    .ok (next.toList ++ rest)

def pruneMap : HeaderMap → Except OverrideError HeaderMap
  | [] => .ok []
  | (key, child) :: fields => do
    let next ← pruneObjectsNode false child
    let rest ← pruneMap fields
    .ok ((next.map (key, ·)).toList ++ rest)

end

def pruneObjects (root : Json) : Except OverrideError Json :=
  if s.options.conditions.isEmpty then .error (.failed "prune_objects conditions are required")
  else do
    let cleaned ← pruneObjectsNode s true root
    .ok (cleaned.getD .null)

/-! ## Conditions on fields -/

def Scalar : Json → Prop
  | .arr _ | .obj _ => False
  | _ => True

structure Plain (condition : ConditionOperation) : Prop where
  full : s.lower condition.mode = "full"
  scalar : Scalar condition.value
  invert : condition.invert = false
  missing : condition.passMissingKey = false

def Satisfies (fields : HeaderMap) : Prop :=
  if s.upper s.options.logic = "AND" then
    ∀ condition ∈ s.options.conditions, fields.lookup condition.path = some condition.value
  else ∃ condition ∈ s.options.conditions, fields.lookup condition.path = some condition.value

variable {s}

theorem Satisfies.append {fields ctx : HeaderMap} (h : Satisfies s fields) :
    Satisfies s (fields ++ ctx) := by
  have hlo : ∀ {name : String} {value : Json}, fields.lookup name = some value →
      (fields ++ ctx).lookup name = some value := by
    intro name value hl
    rw [lookup_append, hl, Option.some_or]
  rw [Satisfies] at h ⊢
  split at h
  · rw [if_pos ‹_›]
    exact fun c hc => hlo (h c hc)
  · rw [if_neg ‹_›]
    obtain ⟨c, hc, hl⟩ := h
    exact ⟨c, hc, hlo hl⟩

theorem compareEqual_ok {value target : Json} {result : Bool} (hs : Scalar target)
    (h : compareEqual s value target = .ok result) : result = true ↔ value = target := by
  cases target <;> cases value <;> cases h <;> cases hs <;> simp

theorem checkSingleCondition_plain {c : ConditionOperation} (hp : Plain s c)
    (fields : HeaderMap) {result : Bool} :
    checkSingleCondition s fields c = .ok result ↔
      match (fields.lookup c.path).or (s.context.lookup c.path) with
      | none => result = false
      | some value => compareEqual s value c.value = .ok result := by
  rw [checkSingleCondition, hp.missing, hp.invert, hp.full]
  cases (fields.lookup c.path).or (s.context.lookup c.path) with
  | none => simp [eq_comm]
  | some value =>
    simp only [compareGjsonValues, if_true]
    cases compareEqual s value c.value <;> simp

theorem checkSingleCondition_ok {c : ConditionOperation} (hp : Plain s c)
    {fields : HeaderMap} {result : Bool} (h : checkSingleCondition s fields c = .ok result) :
    result = true ↔ (fields ++ s.context).lookup c.path = some c.value := by
  rw [checkSingleCondition_plain hp, ← lookup_append] at h
  cases hl : (fields ++ s.context).lookup c.path with
  | none => simp_all
  | some value =>
    rw [hl] at h
    rw [Option.some.injEq]
    exact compareEqual_ok hp.scalar h

section

variable {α β ε : Type} {f g : α → Except ε β} {l : List α}

theorem bind_bind_eq_ok {γ : Type} {x : Except ε α} {y : Except ε β} {f : α → β → γ} {c : γ} :
    (do let a ← x; let b ← y; .ok (f a b)) = .ok c ↔
      ∃ a b, x = .ok a ∧ y = .ok b ∧ c = f a b := by
  cases x <;> cases y <;> simp [bind, Except.bind, eq_comm]

theorem mapM_cons_eq_ok {x : α} {results : List β} :
    (x :: l).mapM f = .ok results ↔
      ∃ result rest, f x = .ok result ∧ l.mapM f = .ok rest ∧ results = result :: rest := by
  rw [mapM_cons]
  exact bind_bind_eq_ok

theorem mapM_stable (h : ∀ x ∈ l, ∀ result, f x = .ok result → g x = .ok result)
    {results : List β} (hl : l.mapM f = .ok results) : l.mapM g = .ok results := by
  induction l generalizing results with
  | nil => exact hl
  | cons x l ih =>
    obtain ⟨hx, hr⟩ := forall_mem_cons.mp h
    obtain ⟨result, rest, hf, hm, rfl⟩ := mapM_cons_eq_ok.mp hl
    exact mapM_cons_eq_ok.mpr ⟨result, rest, hx result hf, ih hr hm, rfl⟩

theorem mapM_holds {f : α → Except ε Bool} {P : α → Prop} {results : List Bool}
    (h : ∀ x ∈ l, ∀ result, f x = .ok result → (result = true ↔ P x))
    (hl : l.mapM f = .ok results) :
    (results.all id = true ↔ ∀ x ∈ l, P x) ∧ (results.any id = true ↔ ∃ x ∈ l, P x) := by
  induction l generalizing results with
  | nil =>
    cases hl
    simp
  | cons x l ih =>
    obtain ⟨hx, hr⟩ := forall_mem_cons.mp h
    obtain ⟨result, rest, hf, hm, rfl⟩ := mapM_cons_eq_ok.mp hl
    obtain ⟨ha, han⟩ := ih hr hm
    simp [hx result hf, ← ha, ← han]

/-- What `pruneArray` and `pruneMap` do with the results of their elements. -/
def keepOk (f : α → Except ε (Option β)) : List α → Except ε (List β)
  | [] => .ok []
  | x :: l => do
    let next ← f x
    let rest ← keepOk f l
    .ok (next.toList ++ rest)

theorem keepOk_cons_eq_ok {f : α → Except ε (Option β)} {x : α} {out : List β} :
    keepOk f (x :: l) = .ok out ↔
      ∃ next rest, f x = .ok next ∧ keepOk f l = .ok rest ∧ out = next.toList ++ rest := by
  rw [keepOk]
  exact bind_bind_eq_ok

theorem keepOk_values {f : α → Except ε (Option β)} {k : α → Option β} {out : List β}
    (h : ∀ x ∈ l, ∀ next, f x = .ok next → next = k x) (hl : keepOk f l = .ok out) :
    out = l.filterMap k := by
  induction l generalizing out with
  | nil =>
    cases hl
    rfl
  | cons x l ih =>
    obtain ⟨hx, hr⟩ := forall_mem_cons.mp h
    obtain ⟨next, rest, hf, hk, rfl⟩ := keepOk_cons_eq_ok.mp hl
    rw [hx next hf, ih hr hk]
    cases hn : k x <;> simp [hn]

theorem keepOk_again {f : α → Except ε (Option α)} {out : List α}
    (h : ∀ x ∈ l, ∀ next, f x = .ok (some next) → f next = .ok (some next))
    (hl : keepOk f l = .ok out) : keepOk f out = .ok out := by
  induction l generalizing out with
  | nil =>
    cases hl
    rfl
  | cons x l ih =>
    obtain ⟨hx, hr⟩ := forall_mem_cons.mp h
    obtain ⟨next, rest, hf, hk, rfl⟩ := keepOk_cons_eq_ok.mp hl
    cases next with
    | none => exact ih hr hk
    | some next =>
      exact keepOk_cons_eq_ok.mpr ⟨some next, rest, hx next hf, ih hr hk, rfl⟩

end

theorem shouldPruneObject_ok (hp : ∀ c ∈ s.options.conditions, Plain s c)
    (hn : s.options.conditions ≠ []) {fields : HeaderMap} {result : Bool}
    (h : shouldPruneObject s fields = .ok result) :
    result = true ↔ Satisfies s (fields ++ s.context) := by
  rw [shouldPruneObject, checkConditions, if_neg (by simpa using hn), bind_eq_ok] at h
  obtain ⟨results, hm, hr⟩ := h
  obtain ⟨ha, han⟩ := mapM_holds (fun c hc _ => checkSingleCondition_ok (hp c hc)) hm
  cases hr
  rw [Satisfies]
  split
  · exact ha
  · exact han

/-- What becomes of the value of a field. -/
inductive Shrunk : Option Json → Option Json → Prop
  | same (value : Option Json) : Shrunk value value
  | arr (items items' : List Json) : Shrunk (some (.arr items)) (some (.arr items'))
  | obj (fields fields' : HeaderMap) : Shrunk (some (.obj fields)) (some (.obj fields'))
  | dropped (fields : HeaderMap) : Shrunk (some (.obj fields)) none

/-- A dropped value was only compared with `null`, which is not in the context. -/
theorem shouldPruneObject_stable (hp : ∀ c ∈ s.options.conditions, Plain s c)
    (hnu : ∀ name, s.context.lookup name ≠ some .null) {fields next : HeaderMap}
    (hs : ∀ name, Shrunk (fields.lookup name) (next.lookup name)) {result : Bool}
    (h : shouldPruneObject s fields = .ok result) : shouldPruneObject s next = .ok result := by
  rw [shouldPruneObject, checkConditions] at h ⊢
  split
  · rwa [if_pos ‹_›] at h
  rw [if_neg ‹_›, bind_eq_ok] at h
  obtain ⟨results, hm, hr⟩ := h
  refine bind_eq_ok.mpr ⟨results, mapM_stable (fun c hc result h => ?_) hm, hr⟩
  have hsc := (hp c hc).scalar
  rw [checkSingleCondition_plain (hp c hc)] at h ⊢
  have hsh := hs c.path
  generalize fields.lookup c.path = before at *
  generalize next.lookup c.path = after at *
  cases hsh with
  | same => exact h
  | arr items items' =>
    cases ht : c.value <;> simp_all [compareEqual, Scalar]
  | obj fields fields' =>
    cases ht : c.value <;> simp_all [compareEqual, Scalar]
  | dropped fields =>
    have hn := hnu c.path
    cases hl : s.context.lookup c.path with
    | none => cases ht : c.value <;> simp_all [compareEqual, Scalar]
    | some value =>
      cases ht : c.value <;> cases value <;> simp_all [compareEqual, Scalar]

/-! ## The tree -/

theorem pruneArray_eq (items : List Json) :
    pruneArray s items = keepOk (pruneObjectsNode s false) items := by
  induction items with
  | nil => rfl
  | cons item items ih => rw [pruneArray, keepOk, ih]

def pruneEntry (s : Pruning) (entry : String × Json) :
    Except OverrideError (Option (String × Json)) :=
  (pruneObjectsNode s false entry.2).map (·.map (entry.1, ·))

theorem pruneEntry_eq_ok {entry : String × Json} {next : Option (String × Json)} :
    pruneEntry s entry = .ok next ↔
      ∃ child, pruneObjectsNode s false entry.2 = .ok child ∧ next = child.map (entry.1, ·) := by
  rw [pruneEntry]
  cases pruneObjectsNode s false entry.2 <;> simp [Except.map, eq_comm]

theorem pruneMap_eq (fields : HeaderMap) : pruneMap s fields = keepOk (pruneEntry s) fields := by
  induction fields with
  | nil => rfl
  | cons entry fields ih =>
    rw [pruneMap, keepOk, ih, pruneEntry]
    cases pruneObjectsNode s false entry.2 <;> rfl

theorem node_shrunk {node : Json} {out : Option Json} {isRoot : Bool}
    (h : pruneObjectsNode s isRoot node = .ok out) : Shrunk (some node) out := by
  cases node with
  | null | bool | num | str =>
    cases h
    exact .same _
  | arr items =>
    rw [pruneObjectsNode, bind_eq_ok] at h
    obtain ⟨result, -, h⟩ := h
    cases h
    exact .arr _ _
  | obj fields =>
    rw [pruneObjectsNode, bind_eq_ok] at h
    obtain ⟨shouldDrop, -, h⟩ := h
    split at h
    · cases h
      exact .dropped _
    split at h
    · cases h
      exact .same _
    · obtain ⟨result, -, h⟩ := bind_eq_ok.mp h
      cases h
      exact .obj _ _

theorem fields_shrunk {fields next : HeaderMap} (hk : (fields.map Prod.fst).Nodup)
    (h : pruneMap s fields = .ok next) (name : String) :
    Shrunk (fields.lookup name) (next.lookup name) := by
  rw [pruneMap_eq] at h
  induction fields generalizing next with
  | nil =>
    cases h
    exact .same _
  | cons entry fields ih =>
    obtain ⟨hKey, hke⟩ := nodup_cons.mp hk
    obtain ⟨first, rest, he, hr, rfl⟩ := keepOk_cons_eq_ok.mp h
    obtain ⟨child, hc, rfl⟩ := pruneEntry_eq_ok.mp he
    have hre := ih hke hr
    have hch := node_shrunk hc
    by_cases hn : name = entry.1
    · subst hn
      rw [lookup_cons_self]
      cases child with
      | some child => simpa using hch
      | none =>
        have hno : fields.lookup entry.1 = none := by
          rw [lookup_eq_none_iff]
          intro other ho
          simpa using fun hEq : entry.1 = other.1 => hKey (hEq ▸ mem_map_of_mem ho)
        rw [hno] at hre
        generalize hl : rest.lookup entry.1 = after at hre
        cases hre
        simpa [hl] using hch
    · have hNe : (name == entry.1) = false := by simpa using hn
      rw [lookup_cons, hNe]
      cases child <;> simpa [lookup_cons, hNe] using hre

open Classical in
noncomputable def satisfied (s : Pruning) (context fields : HeaderMap) : Bool :=
  decide (Satisfies s (fields ++ context))

open Classical in
theorem satisfied_iff {ctx fields : HeaderMap} :
    satisfied s ctx fields = true ↔ Satisfies s (fields ++ ctx) := by
  rw [satisfied, decide_eq_true_iff]

theorem node_values (hp : ∀ c ∈ s.options.conditions, Plain s c)
    (hn : s.options.conditions ≠ []) (hr : s.options.recursive = true) (node : Json) :
    ∀ {isRoot out}, pruneObjectsNode s isRoot node = .ok out →
      out = if isRoot then some (node.prune (satisfied s s.context))
        else node.kept (satisfied s s.context) := by
  induction node using Json.tree_induction with
  | h node ih =>
    intro isRoot out h
    cases node with
    | null | bool | num | str =>
      cases h
      simp [Json.kept, Json.dropped, Json.prune]
    | arr items =>
      rw [pruneObjectsNode, bind_eq_ok, pruneArray_eq] at h
      obtain ⟨result, hk, h⟩ := h
      cases h
      have hit : result = items.filterMap (Json.kept (satisfied s s.context)) :=
        keepOk_values (fun item hi _ h => (ih item hi h).trans (if_neg (by decide))) hk
      have ho : some (.arr result) = some (Json.prune (satisfied s s.context) (.arr items)) := by
        rw [Json.prune, Json.pruneItems_eq, hit]
      cases isRoot <;> exact ho
    | obj fields =>
      rw [pruneObjectsNode, bind_eq_ok] at h
      obtain ⟨shouldDrop, hc, h⟩ := h
      have hd : shouldDrop = satisfied s s.context fields := by
        rw [Bool.eq_iff_iff, satisfied_iff]
        exact shouldPruneObject_ok hp hn hc
      subst hd
      split at h
      · cases h
        simp_all [Json.kept, Json.dropped]
      rw [hr, if_neg (by decide), bind_eq_ok, pruneMap_eq] at h
      obtain ⟨result, hk, h⟩ := h
      cases h
      have hf := keepOk_values (k := fun entry =>
        (Json.kept (satisfied s s.context) entry.2).map (entry.1, ·)) (fun entry he next h => by
          obtain ⟨child, hch, rfl⟩ := pruneEntry_eq_ok.mp h
          rw [ih entry.2 (mem_map_of_mem he) hch]
          rfl) hk
      rw [hf, ← Json.pruneFields_eq]
      cases isRoot <;> simp_all [Json.kept, Json.dropped, Json.prune]

theorem node_again (hp : ∀ c ∈ s.options.conditions, Plain s c)
    (hnu : ∀ name, s.context.lookup name ≠ some .null) (node : Json) :
    node.Distinct → ∀ {isRoot out}, pruneObjectsNode s isRoot node = .ok (some out) →
      pruneObjectsNode s isRoot out = .ok (some out) := by
  induction node using Json.tree_induction with
  | h node ih =>
    rintro ⟨hke, hb⟩ isRoot out h
    cases node with
    | null | bool | num | str =>
      cases h
      rfl
    | arr items =>
      rw [pruneObjectsNode, bind_eq_ok, pruneArray_eq] at h
      obtain ⟨result, hk, h⟩ := h
      cases h
      have ha := keepOk_again (fun item hi _ h => ih item hi (hb item hi) h) hk
      rw [pruneObjectsNode, pruneArray_eq, ha]
      rfl
    | obj fields =>
      have hs := h
      rw [pruneObjectsNode, bind_eq_ok] at h
      obtain ⟨shouldDrop, hc, h⟩ := h
      split at h
      · cases h
      split at h
      · cases h
        exact hs
      obtain ⟨result, hk, h⟩ := bind_eq_ok.mp h
      cases h
      have hch := shouldPruneObject_stable hp hnu (fields_shrunk hke hk) hc
      rw [pruneMap_eq] at hk
      have ha := keepOk_again (fun entry he next h => by
        obtain ⟨child, hchi, hn⟩ := pruneEntry_eq_ok.mp h
        cases child with
        | none => cases hn
        | some child =>
          cases hn
          have hm := mem_map_of_mem (f := Prod.snd) he
          exact pruneEntry_eq_ok.mpr ⟨some child, ih entry.2 hm (hb entry.2 hm) hchi, rfl⟩) hk
      rw [pruneObjectsNode, hch, pruneMap_eq, ha]
      simp_all [bind, Except.bind]

theorem builtContext_ne_null {β : Type} (env : OverrideEnv β) (errorType : ApiError → String)
    (info : Option OverrideInfo) (name : String) :
    (builtContext env errorType info).lookup name ≠ some .null := by
  have ha : ∀ entry ∈ builtContext env errorType info, entry.2 ≠ .null := by
    cases info with
    | none => simp [builtContext]
    | some info =>
      rw [builtContext, contextJSON]
      cases (buildParamOverrideContext env info).lastError <;> simp +contextual [or_imp, forall_and]
  intro h
  obtain ⟨before, after, he, -⟩ := lookup_eq_some_iff.mp h
  exact ha (name, .null) (he ▸ by simp) rfl

/-- Objects that satisfy the conditions only by values of the context are dropped too. -/
theorem prune_objects_exact_iff {β : Type} (env : OverrideEnv β) (errorType : ApiError → String)
    (info : Option OverrideInfo) (hc : s.context = builtContext env errorType info)
    (hp : ∀ c ∈ s.options.conditions, Plain s c) (hr : s.options.recursive = true)
    {doc result : Json} (hd : doc.Distinct) (h : pruneObjects s doc = .ok result) :
    result = doc.prune (satisfied s []) ∧ pruneObjects s result = .ok result ↔
      ∀ fields, Json.Reached (satisfied s []) doc fields →
        Satisfies s (fields ++ s.context) → Satisfies s fields := by
  have hnu := hc ▸ builtContext_ne_null env errorType info
  rw [pruneObjects] at h
  by_cases he : s.options.conditions.isEmpty = true
  · rw [if_pos he] at h
    cases h
  rw [if_neg he] at h
  have hn : s.options.conditions ≠ [] := by simpa using he
  obtain ⟨cleaned, hno, hcl⟩ := bind_eq_ok.mp h
  have hv := node_values hp hn hr doc hno
  subst hv
  cases hcl
  have ha : pruneObjects s (doc.prune (satisfied s s.context)) =
      .ok (doc.prune (satisfied s s.context)) := by
    rw [pruneObjects, if_neg he, node_again hp hnu doc hd hno]
    rfl
  refine (and_iff_left ha).trans ((Json.prune_eq_iff ?_ doc).trans ?_)
  · intro fields hq
    rw [satisfied_iff, append_nil] at hq
    exact satisfied_iff.mpr hq.append
  · simp only [satisfied_iff, append_nil]

def plainPruning (c : ConditionOperation) (info : Option OverrideInfo) : Pruning :=
  ⟨⟨[c], "AND", true⟩, builtContext OverrideInfo.plainEnv (fun _ => "") info,
    fun _ _ _ => .ok true, fun _ => "", id, id⟩

def firstAttempt : OverrideInfo :=
  { originModelName := "", requestURLPath := "", requestHeaders := [] }

theorem prune_objects_exact_of_own :
    let s : Pruning := plainPruning ⟨"type", "full", .str "a", false, false⟩ (some firstAttempt)
    .obj [] = Json.prune (satisfied s []) (.obj [("x", .obj [("type", .str "a")])]) ∧
      pruneObjects s (.obj []) = .ok (.obj []) := by
  intro s
  have hc : (builtContext OverrideInfo.plainEnv (fun _ => "") (some firstAttempt)).lookup "type" =
      none := by decide +kernel
  refine (prune_objects_exact_iff OverrideInfo.plainEnv (fun _ => "") (some firstAttempt) rfl (by
      simpa [s, plainPruning] using ⟨by decide, trivial, rfl, rfl⟩) rfl
    (.mk (by decide) (forall_mem_singleton.mpr
      (.mk (by decide) (forall_mem_singleton.mpr (.mk .nil nofun))))) rfl).mpr ?_
  intro fields _ h
  simpa [Satisfies, lookup_append, hc, s, plainPruning] using h

theorem object_dropped_by_context :
    let s : Pruning :=
      plainPruning ⟨"is_retry", "full", .bool false, false, false⟩ (some firstAttempt)
    pruneObjects s (.obj [("x", .obj [])]) = .ok (.obj []) ∧ ¬ Satisfies s [] := by
  refine ⟨rfl, ?_⟩
  simp [Satisfies, plainPruning]

end

end DeepRouter.Relay.Prune
