import DataGateway.Symbology.Canonical
import DataGateway.Trading.BrokerCalls

/-!
# Reconciliation and racing fills

The broker goes on working while reconciliation reads it: orders are placed, filled and withdrawn
and positions open at any moment, before, between and after the two reads.  Open orders are read
before positions, so a fill that races the reads is seen on one side or the other.
-/

namespace DataGateway
namespace Trading

open Coroutine Symbology

/-! ## The broker -/

/-- The life of an order at the broker. -/
inductive OrderStatus
  /-- Not yet submitted. -/
  | unplaced
  /-- In the open set. -/
  | opened
  /-- Left the open set by a fill. -/
  | filled
  /-- Left the open set without any fill. -/
  | withdrawn
  deriving DecidableEq, Repr

/-- An order as the broker knows it. -/
structure BrokerOrder where
  /-- The broker's own number for the order. -/
  number : Nat
  /-- The symbol it trades. -/
  symbol : String
  /-- The idempotency key it was submitted with. -/
  clientOrderId : Option String
  deriving DecidableEq, Repr

/-- The account at one moment. -/
structure Broker where
  /-- Where every order stands. -/
  status : BrokerOrder → OrderStatus
  /-- The symbols with a position that is not flat. -/
  position : String → Prop

namespace Broker

/-- The order's quantity is live: the order is open, or it was filled. -/
def Live (broker : Broker) (order : BrokerOrder) : Prop :=
  broker.status order = .opened ∨ broker.status order = .filled

/-- What can happen at the broker at any moment. -/
inductive Move : Broker → Broker → Prop
  /-- An order is submitted. -/
  | place {broker order} (new : broker.status order = .unplaced) :
      Move broker { broker with status := Function.update broker.status order .opened }
  /-- An open order fills, which makes the position of its symbol non-flat. -/
  | fill {broker order} (opened : broker.status order = .opened) :
      Move broker {
        status := Function.update broker.status order .filled
        position := fun symbol => symbol = order.symbol ∨ broker.position symbol }
  /-- An open order is cancelled, replaced or expires. -/
  | withdraw {broker order} (opened : broker.status order = .opened) :
      Move broker { broker with status := Function.update broker.status order .withdrawn }
  /-- A position opens in another way, by a partial fill for instance. -/
  | trade {broker symbol} :
      Move broker { broker with position := fun other => other = symbol ∨ broker.position other }

/-- Any number of moves. -/
def Evolves : Broker → Broker → Prop := Relation.ReflTransGen Move

theorem Move.position {before after : Broker} (move : Move before after) {symbol : String}
    (held : before.position symbol) : after.position symbol := by
  cases move with
  | place | withdraw => exact held
  | fill | trade => exact .inr held

/-- Positions do not go flat. -/
theorem Evolves.position {before after : Broker} (evolves : Evolves before after) {symbol : String}
    (held : before.position symbol) : after.position symbol := by
  induction evolves with
  | refl => exact held
  | tail _ move ih => exact move.position ih

/-- An order that was submitted and is live now was live before. -/
theorem Move.live_before {before after : Broker} (move : Move before after) {order : BrokerOrder}
    (submitted : before.status order ≠ .unplaced) (live : after.Live order) :
    before.Live order ∧ after.status order ≠ .unplaced := by
  have known : ∀ {status}, status = OrderStatus.opened ∨ status = .filled →
      status ≠ .unplaced := by
    rintro _ (rfl | rfl) <;> exact nofun
  refine ⟨?_, known live⟩
  cases move with
  | @place placed new =>
      by_cases same : order = placed
      · exact absurd (same ▸ new) submitted
      · simpa [Live, Function.update_of_ne same] using live
  | @fill filled opened =>
      by_cases same : order = filled
      · exact .inl (same ▸ opened)
      · simpa [Live, Function.update_of_ne same] using live
  | @withdraw gone opened =>
      by_cases same : order = gone
      · exact .inl (same ▸ opened)
      · simpa [Live, Function.update_of_ne same] using live
  | trade => exact live

/-- Whether an order has been submitted does not change back. -/
theorem Move.submitted {before after : Broker} (move : Move before after) {order : BrokerOrder}
    (submitted : before.status order ≠ .unplaced) : after.status order ≠ .unplaced := by
  cases move with
  | @place placed new | @fill placed new | @withdraw placed new =>
      by_cases same : order = placed
      · subst same
        simp
      · simpa [Function.update_of_ne same] using submitted
  | trade => exact submitted

theorem Evolves.submitted {before after : Broker} (evolves : Evolves before after)
    {order : BrokerOrder} (submitted : before.status order ≠ .unplaced) :
    after.status order ≠ .unplaced := by
  induction evolves with
  | refl => exact submitted
  | tail _ move ih => exact move.submitted ih

theorem Evolves.live_before {before after : Broker} (evolves : Evolves before after)
    {order : BrokerOrder} (submitted : before.status order ≠ .unplaced)
    (live : after.Live order) : before.Live order := by
  induction evolves with
  | refl => exact live
  | tail evolves move ih => exact ih (move.live_before (Evolves.submitted evolves submitted) live).1

/-- An order that was open leaves the open set by a fill only into a position. -/
theorem Evolves.filled_position {before after : Broker} (evolves : Evolves before after)
    {order : BrokerOrder} (opened : before.status order = .opened)
    (filled : after.status order = .filled) : after.position order.symbol := by
  suffices kept : after.status order = .filled → after.position order.symbol from kept filled
  clear filled
  induction evolves with
  | refl =>
      intro filled
      rw [opened] at filled
      cases filled
  | tail _ move ih =>
      intro filled
      cases move with
      | @place placed new =>
          by_cases same : order = placed
          · subst same
            simp at filled
          · exact ih (by simpa [Function.update_of_ne same] using filled)
      | @fill done _ =>
          by_cases same : order = done
          · exact .inl (by rw [same])
          · exact .inr (ih (by simpa [Function.update_of_ne same] using filled))
      | @withdraw gone _ =>
          by_cases same : order = gone
          · subst same
            simp at filled
          · exact ih (by simpa [Function.update_of_ne same] using filled)
      | trade => exact .inr (ih filled)

end Broker

/-! ## What the two reads return -/

section Reads

variable [Unicode] {Raw : Type}

/-- The record names this symbol, or cannot be read on any day. -/
def BrokerRecord.Names (record : BrokerRecord) (symbol : String) : Prop :=
  record.symbol = some symbol ∨
    ∀ today, ∃ error, extractSymbolFromBrokerRecord today record = .error error

/-- The open-order read returns every open order on the symbol, unless it is cut at 500 rows. -/
def OrdersRead (broker : Broker) (symbol : String) (rows : List BrokerRecord) : Prop :=
  500 ≤ rows.length ∨ ∀ order, broker.status order = .opened → order.symbol = symbol →
    ∃ row ∈ rows, row.clientOrderId = order.clientOrderId ∧ row.Names symbol

/-- The position read returns every position that is not flat. -/
def PositionsRead (broker : Broker) (rows : List BrokerRecord) : Prop :=
  ∀ symbol, broker.position symbol → ∃ row ∈ rows, row.Names symbol

/-- What a reply says about the broker at the moment of the call. -/
def BrokerAnswers (broker : Broker) : (command : Command Raw) → command.Reply → Prop
  | .getOrders symbol, .returned (some rows) => OrdersRead broker symbol rows
  | .getPositions, .returned (some rows) => PositionsRead broker rows
  | _, _ => True

/-- The broker moves before and after every read, and each read shows one moment. -/
def brokerHistory : Contract (@Command.Reply Raw) Broker where
  may _ _ := True
  after command before reply after :=
    ∃ during, before.Evolves during ∧ BrokerAnswers during command reply ∧ during.Evolves after

/-! ## Nothing live is missed -/

/-- The outcome does not present the symbol as flat as far as this owner is concerned. -/
def ReportsLive (owner : Option String) : Except PyError BrokerSymbolState → Prop
  | .error _ => True
  | .ok state => state.complete = false ∨ state.hasPosition = true ∨ owner ∈ state.orderOwners

omit [Unicode] in
theorem mem_zip_of_mapM {α β : Type} {f : α → Except PyError β} {xs : List α} {ys : List β}
    (mapped : xs.mapM f = .ok ys) {x : α} (mem : x ∈ xs) : ∃ y, f x = .ok y ∧
      (x, y) ∈ xs.zip ys := by
  induction xs generalizing ys with
  | nil => simp at mem
  | cons first rest ih =>
      rw [List.mapM_cons] at mapped
      cases head : f first with
      | error error => simp [head, Bind.bind, Except.bind] at mapped
      | ok value =>
          cases tail : rest.mapM f with
          | error error => simp [head, tail, Bind.bind, Except.bind] at mapped
          | ok values =>
              obtain rfl : value :: values = ys := by
                simpa [head, tail, Bind.bind, Except.bind, pure, Except.pure] using mapped
              rcases List.mem_cons.mp mem with rfl | mem
              · exact ⟨value, head, by simp⟩
              · obtain ⟨y, eq, inZip⟩ := ih tail mem
                exact ⟨y, eq, by simp [inZip]⟩

/-- A row that names a canonical symbol is read as that symbol or not read at all. -/
theorem extractSymbol_of_names {day : Date} (today : Date) {text symbol : String}
    {row : BrokerRecord} (canonical : canonicalBrokerSymbol day text = .ok symbol)
    (names : row.Names symbol) :
    extractSymbolFromBrokerRecord today row = .ok (some symbol) ∨
      ∃ error, extractSymbolFromBrokerRecord today row = .error error := by
  rcases names with named | unreadable
  · rcases canonicalBrokerSymbol_stable canonical today with same | unknown
    · exact .inl (by simp [extractSymbolFromBrokerRecord, named, same])
    · exact .inr ⟨.unknown symbol, by simp [extractSymbolFromBrokerRecord, named, unknown]⟩
  · exact .inr (unreadable today)

/-- A position row that names the symbol shows in the result. -/
theorem reconcileRecords_position {clientIds : List String} {day today : Date}
    {text symbol : String} {orders : Option (List BrokerRecord)} {positions : List BrokerRecord}
    (owner : Option String) (canonical : canonicalBrokerSymbol day text = .ok symbol)
    (shown : ∃ row ∈ positions, row.Names symbol) :
    ReportsLive owner (reconcileRecords clientIds today symbol orders (some positions)) := by
  obtain ⟨row, mem, names⟩ := shown
  cases orders with
  | none => trivial
  | some orders =>
      simp only [reconcileRecords]
      split_ifs
      · trivial
      · split
        · trivial
        · rcases extractSymbol_of_names today canonical names with read | ⟨error, read⟩
          · right; left
            simp only [List.any_map, List.any_eq_true]
            exact ⟨row, mem, by simp [positionSymbol, read]⟩
          · left
            simp only [List.all_map, List.all_eq_false]
            exact ⟨row, mem, by simp [positionSymbol, read]⟩

/-- An order row that names the symbol shows in the result. -/
theorem reconcileRecords_order {clientIds : List String} {day today : Date} {text symbol : String}
    {orders : List BrokerRecord} {positions : Option (List BrokerRecord)} {id : Option String}
    (canonical : canonicalBrokerSymbol day text = .ok symbol)
    (shown : 500 ≤ orders.length ∨
      ∃ row ∈ orders, row.clientOrderId = id ∧ row.Names symbol) :
    ReportsLive (ownerFromClientOrderId id clientIds)
      (reconcileRecords clientIds today symbol (some orders) positions) := by
  cases positions with
  | none => trivial
  | some positions =>
      simp only [reconcileRecords]
      split_ifs with cut
      · trivial
      · obtain ⟨row, mem, rfl, names⟩ := shown.resolve_left cut
        split
        · trivial
        · rename_i orderSymbols mapped
          obtain ⟨found, read, inZip⟩ := mem_zip_of_mapM mapped mem
          right; right
          rcases extractSymbol_of_names today canonical names with same | ⟨error, bad⟩
          · obtain rfl : symbol = found := by
              simpa [canonicalOpenOrderSymbolOrConflict, same] using read
            simp only [List.mem_toFinset, List.mem_map, List.mem_filter]
            exact ⟨(row, symbol), ⟨inZip, by simp⟩, rfl⟩
          · simp [canonicalOpenOrderSymbolOrConflict, bad] at read

omit [Unicode] in
/-- A call under the cap and the timeout returns what the SDK returned, or raises. -/
theorem runTradingProviderCall_meets {α γ : Type} {K : Contract (@Command.Reply Raw) γ} {g : γ}
    {settings : Settings} {operation : String} {context : Fields} {command : Command Raw}
    {cast : command.Reply → SdkReply α} {post : Except PyError α → γ → Prop}
    (full : K.may .inflightFull g)
    (may : ∀ reply next, K.after .inflightFull g reply next → K.may command next)
    (raised : ∀ error next, post (.error error) next)
    (returned : ∀ first middle reply value last, K.after .inflightFull g first middle →
      K.after command middle reply last → cast reply = .returned value → post (.ok value) last) :
    Meets K post g (runTradingProviderCall settings operation context
      (.suspend command fun reply => .finish (.ok (cast reply)))) := by
  refine ⟨full, fun first middle cap => ?_⟩
  cases first with
  | true => exact raised _ _
  | false =>
      refine ⟨may _ _ cap, fun reply last answer => ?_⟩
      simp only [resolve_finish]
      cases ended : cast reply with
      | returned value => exact returned _ _ reply value last cap answer ended
      | raised error => cases error <;> exact raised _ _
      | timedOut => exact raised _ _
      | cancelled => exact raised _ _

/-- A read shows one moment between the two moments around it. -/
def ReadDuring (before : Broker) (reads : Broker → List BrokerRecord → Prop) :
    Except PyError (Option (List BrokerRecord)) → Broker → Prop
  | .error _, _ => True
  | .ok rows, last => ∃ during, before.Evolves during ∧ during.Evolves last ∧
      ∀ listed, rows = some listed → reads during listed

/-- One read of reconciliation, under the cap and the timeout. -/
theorem read_meets {settings : Settings} {operation : String} {command : Command Raw}
    {cast : command.Reply → SdkReply (Option (List BrokerRecord))} {before : Broker}
    (reads : Broker → List BrokerRecord → Prop)
    (answers : ∀ during reply listed, BrokerAnswers during command reply →
      cast reply = .returned (some listed) → reads during listed) :
    Meets brokerHistory (ReadDuring before reads) before
      (runTradingProviderCall settings operation []
        (.suspend command fun reply => .finish (.ok (cast reply)))) := by
  refine runTradingProviderCall_meets trivial (fun _ _ _ => trivial) (fun _ _ => trivial) ?_
  rintro first middle reply rows last ⟨cap, toCap, -, fromCap⟩
    ⟨during, toRead, shown, fromRead⟩ eq
  refine ⟨during, (toCap.trans fromCap).trans toRead, fromRead, fun listed listedEq => ?_⟩
  subst listedEq
  exact answers during reply listed shown eq

/-- Whatever happens at the broker around the two reads, an order on the symbol that was open when
the call began and whose quantity is live when it returns is reported: as a position, by its owner,
or by a result that does not claim to be complete. -/
theorem reconcile_reports_live {settings : Settings} {day : Date} {text symbol : String}
    {order : BrokerOrder} {before after : Broker} {outcome : Except PyError BrokerSymbolState}
    (canonical : canonicalBrokerSymbol day text = .ok symbol) (on : order.symbol = symbol)
    (opened : before.status order = .opened)
    (run : Ends brokerHistory before
      (reconcileBrokerSymbolState settings symbol : Route Raw PyError BrokerSymbolState) outcome
      after)
    (live : after.Live order) :
    ReportsLive (ownerFromClientOrderId order.clientOrderId settings.clientIds) outcome := by
  let post : Except PyError BrokerSymbolState → Broker → Prop := fun outcome last =>
    last.Live order →
      ReportsLive (ownerFromClientOrderId order.clientOrderId settings.clientIds) outcome
  suffices meets : Meets brokerHistory post before
      (reconcileBrokerSymbolState settings symbol : Route Raw PyError BrokerSymbolState) from
    run.meets meets live
  have submitted : before.status order ≠ .unplaced := by simp [opened]
  refine Meets.bind (read_meets (fun during listed => OrdersRead during symbol listed)
    fun during reply listed shown eq => ?_) (fun orders middle first => ?_) fun _ _ _ _ => trivial
  · subst eq
    exact shown
  refine Meets.bind (read_meets (fun during listed => PositionsRead during listed)
    fun during reply listed shown eq => ?_) (fun positions last second => ?_)
    fun _ _ _ _ => trivial
  · subst eq
    exact shown
  refine ⟨trivial, fun today final history finalLive => ?_⟩
  obtain ⟨atOrders, toOrders, fromOrders, ordersShown⟩ := first
  obtain ⟨atPositions, toPositions, fromPositions, positionsShown⟩ := second
  obtain ⟨clock, toClock, -, fromClock⟩ := history
  have afterOrders : atOrders.Evolves final :=
    (fromOrders.trans (toPositions.trans fromPositions)).trans (toClock.trans fromClock)
  have liveAtOrders : atOrders.Live order :=
    afterOrders.live_before (toOrders.submitted submitted) finalLive
  rcases liveAtOrders with stillOpen | filled
  · -- the order read shows the order
    cases orders with
    | none => cases positions <;> trivial
    | some rows =>
        refine reconcileRecords_order canonical ?_
        rcases ordersShown rows rfl with cut | listed
        · exact .inl cut
        · exact .inr (listed order stillOpen on)
  · -- the fill came first, so the later read shows the position
    have held : atPositions.position symbol := by
      have position := toOrders.filled_position opened filled
      rw [on] at position
      exact Broker.Evolves.position (fromOrders.trans toPositions) position
    cases positions with
    | none => cases orders <;> trivial
    | some rows => exact reconcileRecords_position _ canonical (positionsShown rows rfl symbol held)

end Reads

/-! ## A fill between the two reads -/

/-- An open order of the client `atlas`. -/
def atlasOrder : BrokerOrder := ⟨1, "AAPL", some "c-atlas-1"⟩

/-- The account with that one order and no position. -/
def atlasOpen : Broker :=
  ⟨Function.update (fun _ => .unplaced) atlasOrder .opened, fun _ => False⟩

/-- The account after the order has filled. -/
def atlasFilled : Broker :=
  ⟨Function.update atlasOpen.status atlasOrder .filled,
    fun symbol => symbol = atlasOrder.symbol ∨ atlasOpen.position symbol⟩

theorem atlasOpen_evolves : atlasOpen.Evolves atlasFilled :=
  .single (.fill (by simp [atlasOpen]))

/-- The order fills before the first read, which no longer lists it; the second read shows it. -/
theorem reconcile_reports_live_atlas :
    let _ := asciiUnicode
    ReportsLive (ownerFromClientOrderId (some "c-atlas-1") ["atlas"])
      (reconcileRecords ["atlas"] newYear "AAPL" (some []) (some [⟨some "AAPL", none⟩])) := by
  let _ := asciiUnicode
  have canonical : canonicalBrokerSymbol newYear "AAPL" = .ok "AAPL" := by decide
  have noneOpen : OrdersRead atlasFilled "AAPL" [] := by
    refine .inr fun order opened _ => ?_
    by_cases same : order = atlasOrder
    · subst same
      simp [atlasFilled] at opened
    · simp [atlasFilled, atlasOpen, Function.update_of_ne same] at opened
  have shown : PositionsRead atlasFilled [⟨some "AAPL", none⟩] := by
    rintro symbol (rfl | flat)
    · exact ⟨⟨some "AAPL", none⟩, by simp, .inl rfl⟩
    · exact flat.elim
  have run : Ends brokerHistory atlasOpen
      (reconcileBrokerSymbolState ⟨100, ["atlas"]⟩ "AAPL" : Route Unit PyError BrokerSymbolState)
      (reconcileRecords ["atlas"] newYear "AAPL" (some []) (some [⟨some "AAPL", none⟩]))
      atlasFilled := by
    refine .suspend false atlasFilled ⟨atlasFilled, atlasOpen_evolves, trivial, .refl⟩ ?_
    refine .suspend (.returned (some [])) atlasFilled ⟨atlasFilled, .refl, noneOpen, .refl⟩ ?_
    refine .suspend false atlasFilled ⟨atlasFilled, .refl, trivial, .refl⟩ ?_
    refine .suspend (.returned (some [⟨some "AAPL", none⟩])) atlasFilled
      ⟨atlasFilled, .refl, shown, .refl⟩ ?_
    exact .suspend newYear atlasFilled ⟨atlasFilled, .refl, trivial, .refl⟩ .finish
  have opened : atlasOpen.status atlasOrder = .opened := by simp [atlasOpen]
  exact reconcile_reports_live canonical rfl opened run (.inr (by simp [atlasFilled]))

end Trading
end DataGateway
