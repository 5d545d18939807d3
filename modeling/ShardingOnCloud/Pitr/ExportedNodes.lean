import ShardingOnCloud.Pitr.MetadataText

namespace ShardingOnCloud.Pitr.ExportedNodes

open ShardingOnCloud.Lib.JsonParser ShardingOnCloud.Pitr.Model ShardingOnCloud.Pitr.Encoding
open ShardingOnCloud.Pitr.MetadataText (Rows)

/-- `StorageNodesInfo`: the storage nodes of each database. -/
structure NodesMap where
  entries : List (String × List StorageNode)
  nodup_keys : (entries.map Prod.fst).Nodup
  deriving DecidableEq

/-- The order in which a `range` loop visits the entries. -/
abbrev Range (m : NodesMap) := { order : List (String × List StorageNode) // order.Perm m.entries }

def emptyNodes : NodesMap := ⟨[], by simp⟩

/-- A later value of the same key replaces the earlier one. -/
def insertNodes (m : NodesMap) (k : String) (v : List StorageNode) : NodesMap where
  entries := m.entries.filter (fun e => e.1 ≠ k) ++ [(k, v)]
  nodup_keys := by
    have hold : ((m.entries.filter (fun e => e.1 ≠ k)).map Prod.fst).Nodup :=
      m.nodup_keys.sublist (List.filter_sublist.map _)
    rw [List.map_append, List.nodup_append]
    refine ⟨hold, by simp, fun a ha b hb => ?_⟩
    obtain ⟨e, he, rfl⟩ := List.mem_map.mp ha
    rw [List.map_singleton, List.mem_singleton] at hb
    rw [hb]
    exact of_decide_eq_true (List.mem_filter.mp he).2

def decodeNodes : Json → NodesMap → Option NodesMap
  | .null, _ => some emptyNodes
  | .obj ms, m => ms.foldlM (fun m x =>
      (decodeSlice ⟨"", 0, "", "", "", ""⟩ (decodeStruct storageNodeFields) x.2 []).map
        (insertNodes m x.1)) m
  | _, _ => none

/-- The only field of `StorageNodesInfo`. Other keys are passed over. -/
def decodeStorageNodesInfo : Json → NodesMap → Option NodesMap
  | .null, m => some m
  | .obj ms, m => ms.foldlM (fun m x =>
      if foldKey x.1 = foldKey "storage_nodes" then decodeNodes x.2 m else some m) m
  | _, _ => none

/-- What `json.Unmarshal` leaves in the pointer `out`, which null makes nil. -/
def unmarshal (data : String) : Option (Option NodesMap) :=
  (parse data).bind (fun j =>
    decodePointer emptyNodes decodeStorageNodesInfo j (some emptyNodes))

def scanNodes (q : Rows) : Except Err String :=
  match q.queryErr with
  | some err => .error ("export storage nodes failure. err: " ++ err)
  | none => do
    let data ← match q.row with
      | none => .ok ""
      | some (.error err) => .error ("query scan failure. err: " ++ err)
      | some (.ok (_, _, data)) =>
        match q.closeErr with
        | some err => .error ("query close failure. err: " ++ err)
        | none => .ok data
    match q.rowsErr with
    -- the error that is formatted is the nil one of the query
    | some _ => .error "query err failure. err: %!s(<nil>)"
    | none => .ok data

def nodeKey (vv : StorageNode) : String := vv.ip ++ ":" ++ toString vv.port

/-- The keys of `tmpNodesMap`, and the nodes that are kept. -/
structure Filtered where
  tmpNodesMap : List String := []
  storageNodes : List StorageNode := []

def visit (s : Filtered) (vv : StorageNode) : Filtered :=
  if nodeKey vv ∈ s.tmpNodesMap then s
  else ⟨nodeKey vv :: s.tmpNodesMap, s.storageNodes ++ [vv]⟩

def filterNodes (order : List (String × List StorageNode)) : Filtered :=
  order.foldl (fun s v => v.2.foldl visit s) {}

/-- `ExportStorageNodes`, with no result where a nil pointer is dereferenced. -/
def exportStorageNodes (msg : String → Err) (q : Rows) (range : (m : NodesMap) → Range m) :
    Option (Except Err (List StorageNode)) :=
  match scanNodes q with
  | .error err => some (.error err)
  | .ok data =>
    match unmarshal data with
    | none => some (.error ("json unmarshal return err: " ++ msg data))
    | some none => none
    | some (some out) => some (.ok (filterNodes (range out).1).storageNodes)

/-- The query succeeds, and the map is what its row holds. -/
def Exports (q : Rows) (m : NodesMap) : Prop :=
  ∃ data, scanNodes q = .ok data ∧ unmarshal data = some (some m)

def endpoint (sn : StorageNode) : String × UInt16 := (sn.ip, sn.port)

def NodesMap.nodes (m : NodesMap) : List StorageNode := m.entries.flatMap Prod.snd

section Keys

theorem colon_notMem (n : UInt16) : ':' ∉ (toString n).toList := by
  have hlist : (toString n).toList = Nat.toDigits 10 n.toNat := Nat.toList_repr
  intro h
  rw [hlist] at h
  have hdigit := Nat.isDigit_of_mem_toDigits (by decide) (by decide) h
  cases hdigit

theorem toString_uint16_inj {m n : UInt16} (h : (toString m).toList = (toString n).toList) :
    m = n := by
  have hm := parseUint16_toString m
  rw [h, parseUint16_toString, Option.some.injEq] at hm
  exact hm.symm

theorem append_cons_inj {c : Char} {xs ys ds es : List Char} (hd : c ∉ ds) (he : c ∉ es)
    (h : xs ++ c :: ds = ys ++ c :: es) : xs = ys ∧ ds = es := by
  obtain ⟨zs, hys, hds⟩ | ⟨zs, hxs, hes⟩ := List.append_eq_append_iff.mp h
  · cases zs with
    | nil =>
      rw [List.nil_append, List.cons.injEq] at hds
      exact ⟨by simpa using hys.symm, hds.2⟩
    | cons z zs =>
      rw [List.cons_append, List.cons.injEq] at hds
      exact absurd (by simp [hds.2]) hd
  · cases zs with
    | nil =>
      rw [List.nil_append, List.cons.injEq] at hes
      exact ⟨by simpa using hxs, hes.2.symm⟩
    | cons z zs =>
      rw [List.cons_append, List.cons.injEq] at hes
      exact absurd (by simp [hes.2]) he

theorem nodeKey_eq_iff {a b : StorageNode} : nodeKey a = nodeKey b ↔ endpoint a = endpoint b := by
  constructor
  · intro h
    have hlist := congrArg String.toList h
    simp only [nodeKey, String.toList_append, List.append_assoc] at hlist
    obtain ⟨hip, hport⟩ := append_cons_inj (colon_notMem _) (colon_notMem _) hlist
    exact Prod.ext (String.toList_inj.mp hip) (toString_uint16_inj hport)
  · intro h
    obtain ⟨hip, hport⟩ := Prod.mk.inj h
    rw [nodeKey, nodeKey, hip, hport]

end Keys

section Loops

/-- The nodes visited so far, and what the loops have made of them. -/
structure Kept (visited : List StorageNode) (s : Filtered) : Prop where
  seen : ∀ k, k ∈ s.tmpNodesMap ↔ k ∈ visited.map nodeKey
  kept : ∀ k, k ∈ s.storageNodes.map nodeKey ↔ k ∈ visited.map nodeKey
  once : (s.storageNodes.map nodeKey).Nodup
  among : ∀ sn ∈ s.storageNodes, sn ∈ visited

theorem visit_kept {visited : List StorageNode} {s : Filtered} (h : Kept visited s)
    (vv : StorageNode) : Kept (visited ++ [vv]) (visit s vv) := by
  have hmem : ∀ k, k ∈ (visited ++ [vv]).map nodeKey ↔
      k ∈ visited.map nodeKey ∨ k = nodeKey vv := by simp
  unfold visit
  split
  · next hseen =>
    -- the key is there already, so the set of keys stays as it is
    have hold : ∀ k, k ∈ (visited ++ [vv]).map nodeKey ↔ k ∈ visited.map nodeKey := by
      intro k
      rw [hmem, or_iff_left_iff_imp]
      rintro rfl
      exact (h.seen _).mp hseen
    exact ⟨fun k => (h.seen k).trans (hold k).symm, fun k => (h.kept k).trans (hold k).symm, h.once,
      fun sn hsn => List.mem_append_left _ (h.among sn hsn)⟩
  · next hseen =>
    have hnew : nodeKey vv ∉ s.storageNodes.map nodeKey := fun hk =>
      hseen ((h.seen _).mpr ((h.kept _).mp hk))
    refine ⟨fun k => ?_, fun k => ?_, ?_, fun sn hsn => ?_⟩
    · rw [List.mem_cons, h.seen, hmem, or_comm]
    · rw [List.map_append, List.mem_append, h.kept, hmem, List.map_singleton, List.mem_singleton]
    · rw [List.map_append, List.nodup_append]
      refine ⟨h.once, by simp, fun a ha b hb => ?_⟩
      rw [List.map_singleton, List.mem_singleton] at hb
      rw [hb]
      rintro rfl
      exact hnew ha
    · rcases List.mem_append.mp hsn with hsn | hsn
      · exact List.mem_append_left _ (h.among sn hsn)
      · exact List.mem_append_right _ hsn

theorem visits_kept {visited : List StorageNode} {s : Filtered} (h : Kept visited s)
    (v : List StorageNode) : Kept (visited ++ v) (v.foldl visit s) := by
  induction v generalizing visited s with
  | nil => simpa using h
  | cons vv v ih => simpa using ih (visit_kept h vv)

theorem filterNodes_kept (order : List (String × List StorageNode)) :
    Kept (order.flatMap Prod.snd) (filterNodes order) := by
  have hnone : Kept [] {} := ⟨by simp, by simp, by simp, by simp⟩
  have hloops : filterNodes order = (order.flatMap Prod.snd).foldl visit {} :=
    List.foldl_flatMap.symm
  rw [hloops]
  simpa using visits_kept hnone (order.flatMap Prod.snd)

theorem endpoint_mem_of_key {xs ys : List StorageNode}
    (h : ∀ k, k ∈ xs.map nodeKey → k ∈ ys.map nodeKey) {e : String × UInt16}
    (he : e ∈ xs.map endpoint) : e ∈ ys.map endpoint := by
  obtain ⟨a, ha, rfl⟩ := List.mem_map.mp he
  obtain ⟨b, hb, hab⟩ := List.mem_map.mp (h _ (List.mem_map_of_mem ha))
  rw [← nodeKey_eq_iff.mp hab]
  exact List.mem_map_of_mem hb

theorem Kept.endpoints {visited : List StorageNode} {s : Filtered} (h : Kept visited s)
    (e : String × UInt16) : (s.storageNodes.map endpoint).count e =
      if e ∈ visited.map endpoint then 1 else 0 := by
  have hnodup : (s.storageNodes.map endpoint).Nodup := by
    refine List.Nodup.map_on (fun a ha b hb hab => ?_) h.once.of_map
    exact List.inj_on_of_nodup_map h.once ha hb (nodeKey_eq_iff.mpr hab)
  have hmem : e ∈ s.storageNodes.map endpoint ↔ e ∈ visited.map endpoint :=
    ⟨endpoint_mem_of_key (fun k => (h.kept k).mp), endpoint_mem_of_key (fun k => (h.kept k).mpr)⟩
  rw [hnodup.count]
  simp only [hmem]

end Loops

/-- Each endpoint of the map is exported once, and nothing else is, whatever the order in which
the databases are visited. -/
theorem storage_nodes_exported_once (msg : String → Err) {q : Rows} {m : NodesMap}
    (h : Exports q m) (range : (m : NodesMap) → Range m) :
    ∃ list, exportStorageNodes msg q range = some (.ok list) ∧
      (∀ e, (list.map endpoint).count e = if e ∈ m.nodes.map endpoint then 1 else 0) ∧
      ∀ sn ∈ list, sn ∈ m.nodes := by
  obtain ⟨data, hscan, hdata⟩ := h
  have hkept := filterNodes_kept (range m).1
  have hnodes : ((range m).1.flatMap Prod.snd).Perm m.nodes := (range m).2.flatMap_right Prod.snd
  refine ⟨(filterNodes (range m).1).storageNodes, ?_, fun e => ?_, fun sn hsn => ?_⟩
  · simp only [exportStorageNodes, hscan, hdata]
  · rw [hkept.endpoints]
    simp only [(hnodes.map endpoint).mem_iff]
  · exact hnodes.mem_iff.mp (hkept.among sn hsn)

def sampleNode : StorageNode := ⟨"10.0.0.1", 5432, "omm", "", "", ""⟩

def sampleNodes : NodesMap := ⟨[("a", [sampleNode]), ("b", [sampleNode])], by decide⟩

def sampleRows : Rows where
  queryErr := none
  row := some (.ok ("1", "2023-01-01 12:00:00 897",
    "\x7b\"storage_nodes\":\x7b\"a\":[\x7b\"ip\":\"10.0.0.1\",\"port\":\"5432\",\"username\":\"omm\"\x7d]," ++
    "\"b\":[\x7b\"ip\":\"10.0.0.1\",\"port\":\"5432\",\"username\":\"omm\"\x7d]\x7d\x7d"))
  closeErr := none
  rowsErr := none

theorem sampleRows_exports : Exports sampleRows sampleNodes := ⟨_, rfl, by decide +kernel⟩

theorem sampleNode_exported_once : Exports sampleRows sampleNodes ∧
    ∃ list, exportStorageNodes id sampleRows (fun m => ⟨m.entries, .refl _⟩) = some (.ok list) ∧
      (list.map endpoint).count ("10.0.0.1", 5432) = 1 := by
  obtain ⟨list, hlist, hcount, -⟩ :=
    storage_nodes_exported_once id sampleRows_exports (fun m => ⟨m.entries, .refl _⟩)
  refine ⟨sampleRows_exports, list, hlist, ?_⟩
  rw [hcount, if_pos (by decide)]

end ShardingOnCloud.Pitr.ExportedNodes
