import DataGateway.Trading.CancelAll

/-!
# What the plan of a batch covers

Resolving and grouping lose no owned order and invent none: every order of the list is either
reported at once or belongs to the group of its symbol.  An order id that is listed under two
symbols belongs to no group.
-/

namespace DataGateway
namespace Trading

variable {clientId : String}

/-- The order carries the caller's prefix. -/
def OpenOrder.ownedBy (clientId : String) (order : OpenOrder) : Bool :=
  (clientOrderIdMatchesOwner order.record.clientOrderId clientId).toOption = some true

/-- The owned orders are those that carry the prefix; a safe client id cannot fail the test. -/
theorem ownedOrders_eq (safe : clientIdSafe clientId = true) (orders : List OpenOrder) :
    ownedOrders clientId orders = .ok (orders.filter (·.ownedBy clientId)) := by
  induction orders with
  | nil => rfl
  | cons order rest ih =>
      have tested : ∃ owned, clientOrderIdMatchesOwner order.record.clientOrderId clientId =
          .ok owned := by
        unfold clientOrderIdMatchesOwner
        split
        · exact ⟨_, rfl⟩
        · rw [ownershipPrefix_of_safe safe]
          exact ⟨_, rfl⟩
      obtain ⟨owned, tested⟩ := tested
      have same : order.ownedBy clientId = owned := by
        simp [OpenOrder.ownedBy, tested, Except.toOption]
      rw [ownedOrders, tested, ih, List.filter_cons, same]
      rfl

section Symbols

variable [Unicode]

/-- On some day, the order resolves to this symbol. -/
def OpenOrder.Resolves (order : OpenOrder) (symbol : String) : Prop :=
  ∃ today, extractSymbolFromBrokerRecord today order.record = .ok (some symbol)

/-- Two orders of one id that resolve to one symbol. -/
def OpenOrder.Repeats (left right : OpenOrder) : Prop :=
  ∃ orderId, left.truthyId = some orderId ∧ right.truthyId = some orderId ∧
    ∃ symbol, left.Resolves symbol ∧ right.Resolves symbol

/-- No order is listed twice under one symbol, and an id that comes with a symbol can be a key. -/
structure Distinct (owned : List OpenOrder) : Prop where
  /-- No order id is listed twice under one symbol. -/
  once : owned.Pairwise fun left right => ¬left.Repeats right
  /-- The ids of orders that have a symbol are hashable. -/
  hashable : ∀ order ∈ owned, ∀ text symbol, order.truthyId = some (.unhashable text) →
    ¬order.Resolves symbol

/-! ## The loop over the owned orders -/

/-- What the loop knows of the orders it has seen. -/
structure Scan.Covers (scan : Scan) (seen : List OpenOrder) : Prop where
  /-- Every order is reported or resolved, once. -/
  ids : (scan.unfenceable.map OrderEntry.orderId ++
    scan.resolved.map fun entry =>
      some (OrderId.hashable entry.1)).Perm (seen.map OpenOrder.truthyId)
  /-- Nothing has been cancelled yet. -/
  unfenced : ∀ entry ∈ scan.unfenceable, ∀ result, entry ≠ .fenced result
  /-- A resolved order was listed and has its symbol. -/
  listed : ∀ entry ∈ scan.resolved, ∃ order ∈ seen,
    order.truthyId = some (.hashable entry.1) ∧ order.Resolves entry.2
  /-- The first symbol of an id is remembered, and another one is a conflict. -/
  first : ∀ entry ∈ scan.resolved, ∃ symbol, scan.symbolByOrderId.get? entry.1 = some symbol ∧
    (symbol = entry.2 ∨ entry.1 ∈ scan.conflicting)
  /-- No id was resolved twice to one symbol. -/
  once : scan.resolved.Nodup

namespace Scan.Covers

variable {scan : Scan} {seen : List OpenOrder} {order : OpenOrder}

theorem start : Scan.start.Covers [] :=
  ⟨.nil, by rintro entry ⟨⟩, by rintro entry ⟨⟩, by rintro entry ⟨⟩, .nil⟩

/-- An order is reported. -/
theorem report (covers : scan.Covers seen) {entry : OrderEntry}
    (same : entry.orderId = order.truthyId) (unfenced : ∀ result, entry ≠ .fenced result) :
    (scan.report entry).Covers (seen ++ [order]) := by
  refine ⟨?_, fun other mem => ?_, fun resolved mem => ?_, covers.first, covers.once⟩
  · rw [Scan.report, List.map_append, List.map_append, List.append_assoc]
    refine (List.perm_append_comm.append_left _).trans ?_
    rw [← List.append_assoc, List.map_singleton, List.map_singleton, same]
    exact covers.ids.append_right _
  · rcases List.mem_append.mp mem with old | new
    · exact covers.unfenced other old
    · exact List.mem_singleton.mp new ▸ unfenced
  · obtain ⟨listed, here, facts⟩ := covers.listed resolved mem
    exact ⟨listed, List.mem_append_left _ here, facts⟩

/-- An order gets its symbol. -/
theorem resolve (covers : scan.Covers seen) {orderId symbol : String}
    (named : order.truthyId = some (.hashable orderId)) (resolves : order.Resolves symbol)
    (fresh : ∀ earlier ∈ seen, ¬earlier.Repeats order) :
    (scan.resolve orderId symbol).Covers (seen ++ [order]) := by
  have unseen : (orderId, symbol) ∉ scan.resolved := by
    intro mem
    obtain ⟨earlier, here, same, symbol_⟩ := covers.listed _ mem
    exact fresh earlier here ⟨_, same, named, symbol, symbol_, resolves⟩
  refine ⟨?_, covers.unfenced, fun entry mem => ?_, fun entry mem => ?_, ?_⟩
  · rw [Scan.resolve, List.map_append, ← List.append_assoc, List.map_append, List.map_singleton,
      List.map_singleton, named]
    exact covers.ids.append_right _
  · rcases List.mem_append.mp mem with old | new
    · obtain ⟨listed, here, facts⟩ := covers.listed entry old
      exact ⟨listed, List.mem_append_left _ here, facts⟩
    · obtain rfl := List.mem_singleton.mp new
      exact ⟨order, List.mem_append_right _ (.head _), named, resolves⟩
  · have kept : ∀ id ∈ scan.conflicting, id ∈ (scan.resolve orderId symbol).conflicting := by
      intro id conflict
      unfold Scan.resolve
      dsimp only
      split
      · exact Finset.mem_insert_of_mem conflict
      · exact conflict
    have remembered : ∀ id known, scan.symbolByOrderId.get? id = some known →
        (scan.resolve orderId symbol).symbolByOrderId.get? id = some known := by
      intro id known held
      unfold Scan.resolve
      dsimp only
      split
      next => exact held
      next absent =>
        rw [OrderedDict.get?_set, if_neg]
        · exact held
        · rintro rfl
          simp [OrderedDict.contains, held] at absent
    rcases List.mem_append.mp mem with old | new
    · obtain ⟨known, held, either⟩ := covers.first entry old
      exact ⟨known, remembered _ _ held, either.imp_right (kept _)⟩
    · obtain rfl := List.mem_singleton.mp new
      dsimp only
      cases held : scan.symbolByOrderId.get? orderId with
      | none =>
          refine ⟨symbol, ?_, .inl rfl⟩
          simp [Scan.resolve, OrderedDict.contains, held, OrderedDict.get?_set]
      | some known =>
          refine ⟨known, remembered _ _ held, ?_⟩
          by_cases same : known = symbol
          · exact .inl same
          · exact .inr (by simp [Scan.resolve, held, same])
  · exact List.nodup_append.mpr ⟨covers.once, List.nodup_singleton _,
      fun entry old other new same => unseen (List.mem_singleton.mp new ▸ same ▸ old)⟩

/-- An id that was resolved to two symbols is in conflict. -/
theorem conflict (covers : scan.Covers seen) {orderId left right : String}
    (first : (orderId, left) ∈ scan.resolved) (second : (orderId, right) ∈ scan.resolved)
    (apart : left ≠ right) : orderId ∈ scan.conflicting := by
  obtain ⟨known, held, either⟩ := covers.first _ first
  obtain ⟨known', held', either'⟩ := covers.first _ second
  obtain rfl := Option.some.inj (held.symm.trans held')
  rcases either with rfl | conflict
  · exact either'.resolve_left apart
  · exact conflict

end Scan.Covers

/-! ## The loop over the resolved orders -/

/-- What the groups hold of the resolved orders that were seen. -/
structure Grouping.Covers (grouping : Grouping) (scan : Scan) (seen : List (String × String)) :
    Prop where
  /-- Every order is reported or in a group, once. -/
  ids : (grouping.unfenceable.map OrderEntry.orderId ++
      (grouping.groups.items.flatMap Prod.snd).map fun text => some (OrderId.hashable text)).Perm
    (scan.unfenceable.map OrderEntry.orderId ++ seen.map fun entry =>
      some (OrderId.hashable entry.1))
  /-- Nothing has been cancelled yet. -/
  unfenced : ∀ entry ∈ grouping.unfenceable, ∀ result, entry ≠ .fenced result
  /-- A group holds resolved orders of its symbol without a conflict. -/
  member : ∀ group ∈ grouping.groups.items, ∀ orderId ∈ group.2,
    (orderId, group.1) ∈ seen ∧ orderId ∉ scan.conflicting
  /-- No id is twice in a group. -/
  once : ∀ group ∈ grouping.groups.items, group.2.Nodup

namespace Grouping.Covers

variable {grouping : Grouping} {scan : Scan} {seen : List (String × String)}
  {orderId symbol : String}

omit [Unicode] in
/-- One more resolved order. -/
theorem add (covers : grouping.Covers scan seen) (fresh : (orderId, symbol) ∉ seen) :
    (grouping.add scan.conflicting (orderId, symbol)).Covers scan
      (seen ++ [(orderId, symbol)]) := by
  unfold Grouping.add
  dsimp only
  split
  next conflict =>
    refine ⟨?_, fun entry mem => ?_, fun group mem id held => ?_, covers.once⟩
    · rw [List.map_append, List.map_append, List.append_assoc]
      refine (List.perm_append_comm.append_left _).trans ?_
      rw [← List.append_assoc, ← List.append_assoc]
      exact covers.ids.append_right _
    · rcases List.mem_append.mp mem with old | new
      · exact covers.unfenced entry old
      · rw [List.mem_singleton.mp new]
        rintro result ⟨⟩
    · exact (covers.member group mem id held).imp_left (List.mem_append_left _)
  next free =>
    have held : ∀ id ∈ (grouping.groups.get? symbol).getD [], (id, symbol) ∈ seen ∧
        id ∉ scan.conflicting := by
      cases found : grouping.groups.get? symbol with
      | none => rintro id ⟨⟩
      | some old =>
          intro id mem
          exact covers.member (symbol, old) (OrderedDict.get?_eq_some.mp found) id mem
    refine ⟨?_, covers.unfenced, fun group mem id here => ?_, fun group mem => ?_⟩
    · have moved := (grouping.groups.perm_set_append symbol [orderId]).map fun text =>
        some (OrderId.hashable text)
      refine (moved.append_left _).trans ?_
      rw [List.map_append, List.map_append, ← List.append_assoc, ← List.append_assoc]
      exact covers.ids.append_right _
    · rcases OrderedDict.mem_set.mp mem with rfl | ⟨old, -⟩
      · rcases List.mem_append.mp here with before | new
        · exact (held id before).imp_left (List.mem_append_left _)
        · obtain rfl := List.mem_singleton.mp new
          exact ⟨List.mem_append_right _ (.head _), free⟩
      · exact (covers.member group old id here).imp_left (List.mem_append_left _)
    · rcases OrderedDict.mem_set.mp mem with rfl | ⟨old, -⟩
      · refine List.nodup_append.mpr ⟨?_, List.nodup_singleton _, fun id before other new same =>
          fresh (List.mem_singleton.mp new ▸ same ▸ (held id before).1)⟩
        cases found : grouping.groups.get? symbol with
        | none => exact .nil
        | some old => exact covers.once _ (OrderedDict.get?_eq_some.mp found)
      · exact covers.once group old

omit [Unicode] in
/-- The loop to its end. -/
theorem fold (covers : grouping.Covers scan seen) {rest : List (String × String)}
    (once : (seen ++ rest).Nodup) :
    (rest.foldl (Grouping.add scan.conflicting) grouping).Covers scan (seen ++ rest) := by
  induction rest generalizing grouping seen with
  | nil => simpa using covers
  | cons entry rest ih =>
      rw [List.append_cons] at once ⊢
      refine ih (covers.add ?_) once
      exact fun mem => (List.nodup_append.mp (List.nodup_append.mp once).1).2.2 _ mem
        _ (.head _) rfl

end Grouping.Covers

/-- What the tasks of a batch rely on. -/
structure Planned (clientId : String) (orders : List OpenOrder)
    (groups : List SymbolGroup) : Prop where
  /-- Every symbol has one group. -/
  symbols : (groups.map Prod.fst).Nodup
  /-- A group holds owned orders that resolve to its symbol. -/
  owned : ∀ group ∈ groups, ∀ orderId ∈ group.2, ∃ order ∈ orders,
    order.ownedBy clientId = true ∧ order.truthyId = some (.hashable orderId) ∧
      order.Resolves group.1
  /-- No id is twice in a group. -/
  once : ∀ group ∈ groups, group.2.Nodup
  /-- No id is in two groups. -/
  apart : ∀ left ∈ groups, ∀ right ∈ groups, ∀ orderId ∈ left.2, orderId ∈ right.2 →
    left.1 = right.1

/-- The plan of a scan of all owned orders. -/
theorem Scan.Covers.grouping {scan : Scan} {owned : List OpenOrder} (covers : scan.Covers owned) :
    scan.grouping.Covers scan scan.resolved := by
  have before : (⟨.empty, scan.unfenceable⟩ : Grouping).Covers scan [] :=
    ⟨.rfl, covers.unfenced, by rintro group ⟨⟩, by rintro group ⟨⟩⟩
  exact before.fold covers.once

theorem Scan.Covers.planned {scan : Scan} {orders : List OpenOrder}
    (covers : scan.Covers (orders.filter (·.ownedBy clientId))) :
    Planned clientId orders scan.grouping.groups.items := by
  have grouped := covers.grouping
  refine ⟨scan.grouping.groups.nodup, fun group mem orderId held => ?_, grouped.once,
    fun left memLeft right memRight orderId heldLeft heldRight => ?_⟩
  · obtain ⟨order, listed, facts⟩ := covers.listed _ (grouped.member group mem orderId held).1
    obtain ⟨here, carries⟩ := List.mem_filter.mp listed
    exact ⟨order, here, carries, facts⟩
  · obtain ⟨first, free⟩ := grouped.member left memLeft orderId heldLeft
    by_contra apart
    exact free (covers.conflict first (grouped.member right memRight orderId heldRight).1 apart)

end Symbols

end Trading
end DataGateway
