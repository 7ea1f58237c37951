import DataGateway.Trading.World

/-!
# What the history records

Readings of single events (an identifier drawn, a fence taken, a marker set, a broker error) and
what it means that some event of a history has a reading.
-/

namespace DataGateway
namespace Trading

variable {ι Raw β : Type}

/-- The history holds an event with this reading. -/
def Recorded (reading : Event ι Raw → Option β) (history : List (Event ι Raw))
    (value : β) : Prop :=
  ∃ event ∈ history, reading event = some value

theorem recorded_cons {reading : Event ι Raw → Option β} {event : Event ι Raw}
    {earlier : List (Event ι Raw)} {value : β} :
    Recorded reading (event :: earlier) value ↔
      reading event = some value ∨ Recorded reading earlier value := by
  simp [Recorded]

instance [DecidableEq β] (reading : Event ι Raw → Option β) (history : List (Event ι Raw))
    (value : β) : Decidable (Recorded reading history value) :=
  inferInstanceAs (Decidable (∃ event ∈ history, reading event = some value))

/-- The identifier that was drawn, with its task. -/
def Event.drawn : Event ι Raw → Option (ι × Uuid)
  | ⟨i, .uuid4, uuid, _, _⟩ => some (i, uuid)
  | _ => none

/-- The fence that was taken: task, symbol and token. -/
def Event.acquired : Event ι Raw → Option (ι × String × String)
  | ⟨i, .store symbol (.acquireFence token), .served true, _, _⟩ => some (i, symbol, token)
  | _ => none

/-- The marker that was set: task, symbol and token. -/
def Event.begun : Event ι Raw → Option (ι × String × String)
  | ⟨i, .store symbol (.beginMutation token), .served true, _, _⟩ => some (i, symbol, token)
  | _ => none

/-- The reconciliation that started: task and symbol. -/
def Event.reconciles : Event ι Raw → Option (ι × String)
  | ⟨i, .getOrders symbol, _, _, _⟩ => some (i, symbol)
  | _ => none

/-- The claim that was thawed: task and symbol. -/
def Event.thawed : Event ι Raw → Option (ι × String)
  | ⟨i, .store symbol (.thawClaim _ _ _), .served true, _, _⟩ => some (i, symbol)
  | _ => none

/-- The claim that was frozen, by its symbol. -/
def Event.froze : Event ι Raw → Option String
  | ⟨_, .store symbol (.setClaim _), .served _, _, _⟩ => some symbol
  | _ => none

/-- The exception in which a broker write ended. -/
def Event.brokerRaised : Event ι Raw → Option BrokerError
  | ⟨_, .awaitReply _, .raised error, _, _⟩ => some error
  | _ => none

theorem Event.drawn_actor {event : Event ι Raw} {i : ι} {uuid : Uuid}
    (drawn : event.drawn = some (i, uuid)) : event.actor = i := by
  obtain ⟨actor, command, reply, before, after⟩ := event
  cases command with
  | uuid4 => exact (Prod.mk.inj (Option.some.inj drawn)).1
  | _ => cases drawn

theorem Event.acquired_actor {event : Event ι Raw} {i : ι} {symbol token : String}
    (acquired : event.acquired = some (i, symbol, token)) :
    event.actor = i ∧ event.command = .store symbol (.acquireFence token) := by
  obtain ⟨actor, command, reply, before, after⟩ := event
  cases command with
  | store target op =>
      cases op with
      | acquireFence given =>
          cases reply with
          | served ok =>
              cases ok with
              | true =>
                  obtain ⟨rfl, rest⟩ := Prod.mk.inj (Option.some.inj acquired)
                  obtain ⟨rfl, rfl⟩ := Prod.mk.inj rest
                  exact ⟨rfl, rfl⟩
              | false => cases acquired
          | failed => cases acquired
          | cancelled => cases acquired
      | _ => cases acquired
  | _ => cases acquired

theorem Event.begun_command {event : Event ι Raw} {i : ι} {symbol token : String}
    (begun : event.begun = some (i, symbol, token)) :
    event.actor = i ∧ event.command = .store symbol (.beginMutation token) := by
  obtain ⟨actor, command, reply, before, after⟩ := event
  cases command with
  | store target op =>
      cases op with
      | beginMutation given =>
          cases reply with
          | served ok =>
              cases ok with
              | true =>
                  obtain ⟨rfl, rest⟩ := Prod.mk.inj (Option.some.inj begun)
                  obtain ⟨rfl, rfl⟩ := Prod.mk.inj rest
                  exact ⟨rfl, rfl⟩
              | false => cases begun
          | failed => cases begun
          | cancelled => cases begun
      | _ => cases begun
  | _ => cases begun

theorem Event.reconciles_command {event : Event ι Raw} {i : ι} {symbol : String}
    (reconciles : event.reconciles = some (i, symbol)) :
    event.actor = i ∧ event.command = .getOrders symbol := by
  obtain ⟨actor, command, reply, before, after⟩ := event
  cases command with
  | getOrders target =>
      obtain ⟨rfl, rfl⟩ := Prod.mk.inj (Option.some.inj reconciles)
      exact ⟨rfl, rfl⟩
  | _ => cases reconciles

theorem Event.thawed_command {event : Event ι Raw} {i : ι} {symbol : String}
    (thawed : event.thawed = some (i, symbol)) :
    event.actor = i ∧
      ∃ expected delete owner, event.command =
        .store symbol (.thawClaim expected delete owner) := by
  obtain ⟨actor, command, reply, before, after⟩ := event
  cases command with
  | store target op =>
      cases op with
      | thawClaim expected delete owner =>
          cases reply with
          | served ok =>
              cases ok with
              | true =>
                  obtain ⟨rfl, rfl⟩ := Prod.mk.inj (Option.some.inj thawed)
                  exact ⟨rfl, expected, delete, owner, rfl⟩
              | false => cases thawed
          | failed => cases thawed
          | cancelled => cases thawed
      | _ => cases thawed
  | _ => cases thawed

theorem Event.froze_command {event : Event ι Raw} {symbol : String}
    (froze : event.froze = some symbol) : ∃ raw, event.command = .store symbol (.setClaim raw) := by
  obtain ⟨actor, command, reply, before, after⟩ := event
  cases command with
  | store target op =>
      cases op with
      | setClaim raw =>
          cases reply with
          | served ok =>
              obtain rfl := Option.some.inj froze
              exact ⟨raw, rfl⟩
          | failed => cases froze
          | cancelled => cases froze
      | _ => cases froze
  | _ => cases froze

theorem Event.brokerRaised_command {event : Event ι Raw} {error : BrokerError}
    (raised : event.brokerRaised = some error) : ∃ write, event.command = .awaitReply write := by
  obtain ⟨actor, command, reply, before, after⟩ := event
  cases command with
  | awaitReply write => exact ⟨write, rfl⟩
  | _ => cases raised

end Trading
end DataGateway
