import DataGateway.Streaming.Frames

/-!
# Where the checks of a frame raise

The checks of a message end with a request, with a refusal, or with an exception where a value is
asked for what it does not have: a feed for its hash or its letters, the provider or a symbol for
its letters.
-/

namespace DataGateway
namespace Streaming

open Coroutine

variable {α β : Type}

/-! ## Where a check raises -/

/-- The check ends with an exception. -/
def Escapes (checked : Except Exit α) : Prop := ∃ error, checked = .error (.raised error)

theorem escapes_bind {checked : Except Exit α} {next : α → Except Exit β} :
    Escapes (checked >>= next) ↔
      Escapes checked ∨ ∃ value, checked = .ok value ∧ Escapes (next value) := by
  cases checked with
  | ok value => simp [Escapes, Bind.bind, Except.bind]
  | error ended => simp [Escapes, Bind.bind, Except.bind]

theorem bind_eq_ok {checked : Except Exit α} {next : α → Except Exit β} {result : β} :
    (checked >>= next) = .ok result ↔ ∃ value, checked = .ok value ∧ next value = .ok result := by
  cases checked with
  | ok value => simp [Bind.bind, Except.bind]
  | error ended => simp [Bind.bind, Except.bind]

theorem not_escapes_ok {value : α} : ¬ Escapes (.ok value : Except Exit α) :=
  fun ⟨_, same⟩ => by cases same

theorem not_escapes_refusal {refusal : Refusal} :
    ¬ Escapes (.error (.refusal refusal) : Except Exit α) :=
  fun ⟨_, same⟩ => by cases same

/-- The values of a list are of one kind up to the first one of another kind. -/
def Stops (passes fails : JsonValue → Prop) (values : List JsonValue) : Prop :=
  ∃ front value rest, values = front ++ value :: rest ∧ (∀ other ∈ front, passes other) ∧
    fails value

section Stops

variable {passes fails : JsonValue → Prop} {value : JsonValue} {rest : List JsonValue}

theorem not_stops_nil : ¬ Stops passes fails [] := by
  rintro ⟨front, value, rest, split, -⟩
  exact List.append_ne_nil_of_right_ne_nil _ (List.cons_ne_nil _ _) split.symm

theorem stops_cons : Stops passes fails (value :: rest) ↔
    fails value ∨ passes value ∧ Stops passes fails rest := by
  constructor
  · rintro ⟨front, found, behind, split, before, failing⟩
    cases front with
    | nil =>
        obtain ⟨rfl, -⟩ := List.cons.inj split
        exact .inl failing
    | cons first front =>
        obtain ⟨rfl, rfl⟩ := List.cons.inj split
        exact .inr ⟨before _ (.head _), front, found, behind, rfl,
          fun other mem => before other (.tail _ mem), failing⟩
  · rintro (failing | ⟨passing, front, found, behind, rfl, before, failing⟩)
    · exact ⟨[], value, rest, rfl, fun _ mem => absurd mem List.not_mem_nil, failing⟩
    · exact ⟨value :: front, found, behind, rfl, List.forall_mem_cons.mpr ⟨passing, before⟩,
      failing⟩

end Stops

/-- The value is no text. -/
def NoText (value : JsonValue) : Prop := value.string? = none

variable [Unicode]

/-- The value is a text that is a symbol. -/
def SymbolText (value : JsonValue) : Prop :=
  ∃ symbol, value = .string symbol ∧ wellFormed symbol = true

theorem validateSymbolValues_spec {seen : List String} {values : List JsonValue}
    (checked : ∀ symbol, upper symbol ∈ seen → wellFormed symbol = true) :
    (Escapes (validateSymbolValues seen values) ↔ Stops SymbolText NoText values) ∧
      (validateSymbolValues seen values = .ok () ↔ ∀ value ∈ values, SymbolText value) := by
  induction values generalizing seen with
  | nil => simp [validateSymbolValues, not_stops_nil, not_escapes_ok]
  | cons value rest ih =>
      rw [stops_cons, List.forall_mem_cons]
      cases value with
      | string symbol =>
          have text : ¬ NoText (.string symbol) := fun none_ => by cases none_
          have known : SymbolText (.string symbol) ↔ wellFormed symbol = true :=
            ⟨fun ⟨_, same, fine⟩ =>
              by cases same; exact fine, fun fine => ⟨symbol, rfl, fine⟩⟩
          rw [known, or_iff_right text]
          unfold validateSymbolValues
          dsimp only
          split
          next old =>
            rw [and_iff_right (checked symbol old), and_iff_right (checked symbol old)]
            exact ih checked
          next new =>
          split
          next bad => simp [wellFormed, bad, Escapes]
          next clean =>
          split
          next fits =>
            have fine : wellFormed symbol = true := by simp [wellFormed, clean, fits]
            rw [and_iff_right fine, and_iff_right fine]
            refine ih fun other mem => ?_
            rcases List.mem_cons.mp mem with same | mem
            · rwa [wellFormed, same, ← wellFormed]
            · exact checked other mem
          next misfits => simp [wellFormed, misfits, Escapes]
      | null | bool _ | int _ | float _ | infinite _ | nan | list _ | dict _ =>
          simp [validateSymbolValues, Escapes, NoText, SymbolText, JsonValue.string?]

/-- As many symbols as the client may name. -/
def FewSymbols (permissions : ClientPermissions) (symbols : List JsonValue) : Prop :=
  symbols.length ≤ if permissions.maxSymbols = 0 then symbolsArrayMax else permissions.maxSymbols

theorem validateSymbolsValue_spec {permissions : ClientPermissions} {symbols : List JsonValue} :
    (Escapes (validateSymbolsValue symbols permissions.maxSymbols) ↔
        FewSymbols permissions symbols ∧ Stops SymbolText NoText symbols) ∧
      (validateSymbolsValue symbols permissions.maxSymbols = .ok () ↔
        symbols ≠ [] ∧ FewSymbols permissions symbols ∧
        ∀ value ∈ symbols, SymbolText value) := by
  have spec := @validateSymbolValues_spec _ [] symbols fun symbol mem => absurd mem List.not_mem_nil
  unfold validateSymbolsValue FewSymbols
  generalize (if permissions.maxSymbols = 0 then symbolsArrayMax else permissions.maxSymbols) = most
  cases symbols with
  | nil => simp [not_stops_nil, not_escapes_refusal]
  | cons value rest =>
      dsimp only [List.isEmpty_cons]
      rw [if_neg Bool.false_ne_true]
      split
      next long =>
        have far := Nat.not_le.mpr long
        exact ⟨iff_of_false not_escapes_refusal fun few => far few.1,
          iff_of_false (fun same => by cases same) fun few => far few.2.1⟩
      next fits =>
        have few := Nat.not_lt.mp fits
        exact ⟨spec.1.trans (and_iff_right few).symm, spec.2.trans
          ⟨fun all => ⟨List.cons_ne_nil _ _, few, all⟩, fun valid => valid.2.2⟩⟩

variable [Lowercase]

omit [Unicode] in
/-- The client may subscribe to the feed. -/
def FeedPermitted (permissions : ClientPermissions) (feed : JsonValue) : Prop :=
  ∃ required, requiredFeed feed = some required ∧ hasFeedPermission permissions required = true

omit [Unicode] in
theorem escapes_checkFeeds {permissions : ClientPermissions} {feeds : List JsonValue} :
    Escapes (checkFeeds permissions feeds) ↔
      Stops (FeedPermitted permissions) (fun feed => requiredFeed feed = none) feeds := by
  induction feeds with
  | nil => exact iff_of_false not_escapes_ok not_stops_nil
  | cons feed rest ih =>
      rw [stops_cons]
      unfold checkFeeds
      cases known : requiredFeed feed with
      | none => simp [Escapes]
      | some required =>
          dsimp only
          by_cases permitted : hasFeedPermission permissions required = true
          · simp [FeedPermitted, known, permitted, ih]
          · simp [FeedPermitted, known, permitted, Escapes]

omit [Unicode] in
theorem checkFeeds_eq_ok {permissions : ClientPermissions} {feeds : List JsonValue} {done : Unit} :
    checkFeeds permissions feeds = .ok done ↔ ∀ feed ∈ feeds, FeedPermitted permissions feed := by
  induction feeds with
  | nil => simp [checkFeeds]
  | cons feed rest ih =>
      rw [List.forall_mem_cons]
      unfold checkFeeds
      cases known : requiredFeed feed with
      | none => simp [FeedPermitted, known]
      | some required =>
          dsimp only
          by_cases permitted : hasFeedPermission permissions required = true
          · simp [FeedPermitted, known, permitted, ih]
          · simp [FeedPermitted, known, permitted]

omit [Unicode] [Lowercase] in
theorem escapes_canonicalFeeds {message : FrameFields} : Escapes (canonicalFeeds message) ↔
    ∃ feeds, message.feeds = .list feeds ∧ ∃ feed ∈ feeds, feed.hashKey = none := by
  unfold canonicalFeeds
  split
  next feed rest listed =>
    rw [listed]
    split
    next hashed =>
      refine iff_of_false not_escapes_ok ?_
      rintro ⟨feeds, same, found, mem, bad⟩
      obtain rfl := JsonValue.list.inj same
      have known := List.all_eq_true.mp hashed found mem
      rw [bad] at known
      cases known
    next unhashed =>
      simp only [List.all_eq_true, not_forall] at unhashed
      obtain ⟨found, mem, bad⟩ := unhashed
      exact iff_of_true ⟨_, rfl⟩ ⟨_, rfl, found, mem, by simpa using bad⟩
  next other =>
    refine iff_of_false not_escapes_refusal ?_
    rintro ⟨feeds, same, found, mem, bad⟩
    obtain ⟨first, rest, rfl⟩ := List.exists_cons_of_ne_nil (List.ne_nil_of_mem mem)
    exact other first rest same

omit [Unicode] [Lowercase] in
theorem not_escapes_askedSymbols {message : FrameFields} : ¬ Escapes (askedSymbols message) := by
  unfold askedSymbols
  split
  · exact not_escapes_ok
  · exact not_escapes_refusal

omit [Unicode] [Lowercase] in
theorem askedSymbols_eq_ok {message : FrameFields} {symbols : List JsonValue} :
    askedSymbols message = .ok symbols ↔ message.symbols = .list symbols := by
  unfold askedSymbols
  split
  next found listed => simp [listed]
  next other => exact iff_of_false (fun same => by cases same) (other symbols)

omit [Unicode] [Lowercase] in
theorem not_escapes_authenticatedClient {permissions : Option ClientPermissions} :
    ¬ Escapes (authenticatedClient permissions) := by
  cases permissions with
  | none => exact not_escapes_refusal
  | some granted => exact not_escapes_ok

omit [Unicode] [Lowercase] in
theorem authenticatedClient_eq_ok {permissions : Option ClientPermissions}
    {granted : ClientPermissions} :
    authenticatedClient permissions = .ok granted ↔ permissions = some granted := by
  cases permissions <;> simp [authenticatedClient]

/-- The symbols are valid, where there are any. -/
def ValidSymbols (permissions : ClientPermissions) (symbols : List JsonValue) : Prop :=
  FewSymbols permissions symbols ∧ ∀ value ∈ symbols, SymbolText value

omit [Lowercase] in
theorem escapes_checkSymbols {permissions : ClientPermissions} {symbols : List JsonValue}
    {optional : Bool} : Escapes (checkSymbols optional symbols permissions.maxSymbols) ↔
      FewSymbols permissions symbols ∧ Stops SymbolText NoText symbols := by
  unfold checkSymbols
  split
  next none_ =>
    have empty : symbols = [] := by simpa using (Bool.and_eq_true_iff.mp none_).1
    subst empty
    exact iff_of_false not_escapes_ok fun stops => not_stops_nil stops.2
  · exact validateSymbolsValue_spec.1

omit [Lowercase] in
theorem checkSymbols_eq_ok {permissions : ClientPermissions} {symbols : List JsonValue}
    {optional : Bool} {done : Unit} :
    checkSymbols optional symbols permissions.maxSymbols = .ok done ↔
      ValidSymbols permissions symbols ∧ (symbols = [] → optional = true) := by
  unfold checkSymbols ValidSymbols
  cases symbols with
  | nil =>
      cases optional with
      | true => simp [FewSymbols]
      | false => exact iff_of_false (fun same => by cases same) fun given => by cases given.2 rfl
  | cons value rest =>
      have spec : validateSymbolsValue (value :: rest) permissions.maxSymbols = .ok () ↔ _ :=
        validateSymbolsValue_spec.2
      simpa using spec

omit [Unicode] in
theorem checkProvider_spec {permissions : ClientPermissions} {provider : JsonValue} :
    (Escapes (checkProvider permissions provider) → NoText provider) ∧
      (checkProvider permissions provider = .ok () → ∀ text, provider = .string text →
        hasProviderPermission permissions text = true) := by
  unfold checkProvider
  split
  next text =>
    split
    next permitted =>
      refine ⟨fun escapes => absurd escapes not_escapes_ok, fun _ other same => ?_⟩
      obtain rfl := JsonValue.string.inj same
      exact permitted
    · exact ⟨fun escapes => absurd escapes not_escapes_refusal, fun same => by cases same⟩
  next other =>
    have none_ : NoText provider := by
      cases found : provider.string? with
      | none => exact found
      | some text => exact absurd (JsonValue.string?_eq_some.mp found) (other text)
    refine ⟨fun _ => none_, fun _ text same => ?_⟩
    rw [same] at none_
    cases none_

omit [Unicode] in
theorem checkProvider_string {permissions : ClientPermissions} {provider : String} {done : Unit} :
    checkProvider permissions (.string provider) = .ok done ↔
      hasProviderPermission permissions provider = true := by
  unfold checkProvider
  by_cases permitted : hasProviderPermission permissions provider = true <;> simp [permitted]

variable [Rendering]

/-- The request is for option flow. -/
def ForFlow (provider : String) (feeds : List JsonValue) : Prop :=
  isUwFlowRequest provider (feeds.map (·.text)) = true

omit [Unicode] in
theorem escapes_isFlowRequest {provider : JsonValue} {feeds : List JsonValue} :
    Escapes (isFlowRequest provider feeds) ↔ NoText provider := by
  cases provider with
  | string text => simp [isFlowRequest, not_escapes_ok, NoText, JsonValue.string?]
  | null | bool _ | int _ | float _ | infinite _ | nan | list _ | dict _ =>
      simp [isFlowRequest, Escapes, NoText, JsonValue.string?]

omit [Unicode] in
theorem isFlowRequest_eq_ok {provider : JsonValue} {feeds : List JsonValue} {flow : Bool} :
    isFlowRequest provider feeds = .ok flow ↔
      ∃ text, provider = .string text ∧ isUwFlowRequest text (feeds.map (·.text)) = flow := by
  cases provider <;> simp [isFlowRequest]

omit [Unicode] [Rendering] in
theorem not_escapes_checkQuota {permissions : ClientPermissions} {subscriptions : Finset String}
    {request : SubscriptionRequest} : ¬ Escapes (checkQuota permissions subscriptions request) := by
  unfold checkQuota
  split
  · exact not_escapes_refusal
  · exact not_escapes_ok

omit [Unicode] [Rendering] in
theorem checkQuota_eq_ok {permissions : ClientPermissions} {subscriptions : Finset String}
    {request : SubscriptionRequest} {done : Unit} :
    checkQuota permissions subscriptions request = .ok done ↔
      entriesAfter subscriptions request ≤ permissions.wsSubscriptionsMax := by
  unfold checkQuota
  split
  next many => exact iff_of_false (fun same => by cases same) (Nat.not_le.mpr many)
  next few => exact iff_of_true rfl (Nat.not_lt.mp few)

/-- A request for feeds and symbols of a client. -/
structure AsksFor (permissions : Option ClientPermissions) (message : FrameFields)
    (granted : ClientPermissions) (feeds symbols : List JsonValue) : Prop where
  client : permissions = some granted
  known : canonicalFeeds message = .ok feeds
  listed : message.symbols = .list symbols

/-- Where the checks of a subscription raise. -/
inductive SubscribeEscapes (permissions : Option ClientPermissions) (message : FrameFields) : Prop
  | hash (feeds : List JsonValue) (asked : message.feeds = .list feeds)
      (unhashable : ∃ feed ∈ feeds, feed.hashKey = none)
  | provider {granted feeds symbols} (asks : AsksFor permissions message granted feeds symbols)
      (provider : NoText message.provider)
  | symbol {granted feeds symbols provider}
      (asks : AsksFor permissions message granted feeds symbols)
      (named : message.provider = .string provider) (few : FewSymbols granted symbols)
      (stops : Stops SymbolText NoText symbols)
  | feed {granted feeds symbols provider}
      (asks : AsksFor permissions message granted feeds symbols)
      (named : message.provider = .string provider) (valid : ValidSymbols granted symbols)
      (some_ : symbols = [] → ForFlow provider feeds)
      (permitted : hasProviderPermission granted provider = true)
      (stops : Stops (FeedPermitted granted) (fun feed => requiredFeed feed = none) feeds)

theorem escapes_checkSubscribeFrame {permissions : Option ClientPermissions}
    {subscriptions : Finset String} {message : FrameFields} :
    Escapes (checkSubscribeFrame permissions subscriptions message) ↔
      SubscribeEscapes permissions message := by
  unfold checkSubscribeFrame
  simp only [escapes_bind, not_escapes_askedSymbols, askedSymbols_eq_ok,
    not_escapes_authenticatedClient, authenticatedClient_eq_ok, escapes_isFlowRequest,
    isFlowRequest_eq_ok, escapes_checkSymbols, checkSymbols_eq_ok, escapes_checkFeeds,
    not_escapes_checkQuota, not_escapes_ok, false_or, and_false, exists_false, or_false]
  constructor
  · rintro (unhashable | ⟨feeds, known, symbols, listed, granted, client, rest⟩)
    · obtain ⟨feeds, asked, unhashable⟩ := escapes_canonicalFeeds.mp unhashable
      exact .hash feeds asked unhashable
    have asks : AsksFor permissions message granted feeds symbols := ⟨client, known, listed⟩
    rcases rest with untold | ⟨flow, ⟨provider, named, isFlow⟩, few_stops | ⟨_, valid, rest⟩⟩
    · exact .provider asks untold
    · exact .symbol asks named few_stops.1 few_stops.2
    simp only [named, checkProvider_string] at rest
    rcases rest with untold | ⟨_, permitted, stops⟩
    · cases checkProvider_spec.1 untold
    · exact .feed asks named valid.1 (fun empty => isFlow.trans (valid.2 empty)) permitted stops
  · intro escapes
    cases escapes with
    | hash feeds asked unhashable =>
        exact .inl (escapes_canonicalFeeds.mpr ⟨feeds, asked, unhashable⟩)
    | @provider granted feeds symbols asks untold =>
        exact .inr ⟨feeds, asks.known, symbols, asks.listed, granted, asks.client, .inl untold⟩
    | @symbol granted feeds symbols provider asks named few stops =>
        exact .inr ⟨feeds, asks.known, symbols, asks.listed, granted, asks.client,
          .inr ⟨_, ⟨provider, named, rfl⟩, .inl ⟨few, stops⟩⟩⟩
    | @feed granted feeds symbols provider asks named valid some_ permitted stops =>
        refine .inr ⟨feeds, asks.known, symbols, asks.listed, granted, asks.client,
          .inr ⟨_, ⟨provider, named, rfl⟩,
            .inr ⟨(), ⟨valid, some_⟩, .inr ⟨(), ?_, stops⟩⟩⟩⟩
        rw [named, checkProvider_string]
        exact permitted

/-- What a subscription that passes the checks is known to meet. -/
structure PassesSubscribeFrame (permissions : Option ClientPermissions)
    (subscriptions : Finset String) (message : FrameFields) (granted : ClientPermissions)
    (feeds symbols : List JsonValue) (provider : String) : Prop
    extends AsksFor permissions message granted feeds symbols where
  named : message.provider = .string provider
  valid : ValidSymbols granted symbols
  some_ : symbols = [] → ForFlow provider feeds
  permitted : hasProviderPermission granted provider = true
  feedsPermitted : ∀ feed ∈ feeds, FeedPermitted granted feed
  quota : entriesAfter subscriptions (requestOf message.provider feeds symbols) ≤
    granted.wsSubscriptionsMax

theorem checkSubscribeFrame_eq_ok {permissions : Option ClientPermissions}
    {subscriptions : Finset String} {message : FrameFields}
    {passed : SubscriptionRequest × List JsonValue} :
    checkSubscribeFrame permissions subscriptions message = .ok passed ↔
      ∃ granted feeds symbols provider,
        PassesSubscribeFrame permissions subscriptions message granted feeds symbols provider ∧
          passed = (requestOf message.provider feeds symbols, feeds) := by
  unfold checkSubscribeFrame
  simp only [bind_eq_ok, askedSymbols_eq_ok, authenticatedClient_eq_ok, isFlowRequest_eq_ok,
    checkSymbols_eq_ok, checkFeeds_eq_ok, checkQuota_eq_ok]
  constructor
  · rintro ⟨feeds, known, symbols, listed, granted, client, flow, ⟨provider, named, isFlow⟩, _,
      valid, _, permitted, _, feedsPermitted, _, quota, same⟩
    rw [named, checkProvider_string] at permitted
    exact ⟨granted, feeds, symbols, provider, ⟨⟨client, known, listed⟩, named, valid.1,
      fun empty => isFlow.trans (valid.2 empty), permitted, feedsPermitted, quota⟩,
      (Except.ok.inj same).symm⟩
  · rintro ⟨granted, feeds, symbols, provider, passes, rfl⟩
    refine ⟨feeds, passes.known, symbols, passes.listed, granted, passes.client, _,
      ⟨provider, passes.named, rfl⟩, (), ⟨passes.valid, passes.some_⟩, (), ?_, (),
      passes.feedsPermitted, (), passes.quota, rfl⟩
    rw [passes.named, checkProvider_string]
    exact passes.permitted

/-- Where the checks of the end of a subscription raise. -/
inductive UnsubscribeEscapes (permissions : Option ClientPermissions) (message : FrameFields) : Prop
  | hash (feeds : List JsonValue) (asked : message.feeds = .list feeds)
      (unhashable : ∃ feed ∈ feeds, feed.hashKey = none)
  | symbol {granted feeds symbols} (asks : AsksFor permissions message granted feeds symbols)
      (few : FewSymbols granted symbols) (stops : Stops SymbolText NoText symbols)
  | provider {granted feeds symbols} (asks : AsksFor permissions message granted feeds symbols)
      (valid : ValidSymbols granted symbols) (provider : NoText message.provider)

theorem escapes_checkUnsubscribeFrame {permissions : Option ClientPermissions}
    {message : FrameFields} :
    Escapes (checkUnsubscribeFrame permissions message) ↔
      UnsubscribeEscapes permissions message := by
  unfold checkUnsubscribeFrame
  simp only [escapes_bind, not_escapes_askedSymbols, askedSymbols_eq_ok,
    not_escapes_authenticatedClient, authenticatedClient_eq_ok, escapes_isFlowRequest,
    escapes_checkSymbols, checkSymbols_eq_ok, not_escapes_ok, false_or, and_false, exists_false,
    or_false]
  constructor
  · rintro (unhashable | ⟨feeds, known, symbols, listed, granted, client, rest⟩)
    · obtain ⟨feeds, asked, unhashable⟩ := escapes_canonicalFeeds.mp unhashable
      exact .hash feeds asked unhashable
    have asks : AsksFor permissions message granted feeds symbols := ⟨client, known, listed⟩
    rcases rest with few_stops | ⟨_, valid, untold | ⟨_, _, untold⟩⟩
    · exact .symbol asks few_stops.1 few_stops.2
    · exact .provider asks valid.1 (checkProvider_spec.1 untold)
    · exact .provider asks valid.1 untold
  · intro escapes
    cases escapes with
    | hash feeds asked unhashable =>
        exact .inl (escapes_canonicalFeeds.mpr ⟨feeds, asked, unhashable⟩)
    | @symbol granted feeds symbols asks few stops =>
        exact .inr ⟨feeds, asks.known, symbols, asks.listed, granted, asks.client,
          .inl ⟨few, stops⟩⟩
    | @provider granted feeds symbols asks valid untold =>
        refine .inr ⟨feeds, asks.known, symbols, asks.listed, granted, asks.client,
          .inr ⟨(), ⟨valid, fun _ => trivial⟩, ?_⟩⟩
        -- Without a list of providers the check passes, and the routing raises.
        unfold checkProvider
        split
        next text same =>
          rw [same] at untold
          cases untold
        · split
          · exact .inr ⟨(), rfl, untold⟩
          · exact .inl ⟨_, rfl⟩

/-- What the end of a subscription that passes the checks is known to meet. -/
structure PassesUnsubscribeFrame (permissions : Option ClientPermissions) (message : FrameFields)
    (granted : ClientPermissions) (feeds symbols : List JsonValue) (provider : String) : Prop
    extends AsksFor permissions message granted feeds symbols where
  named : message.provider = .string provider
  valid : ValidSymbols granted symbols
  permitted : hasProviderPermission granted provider = true

theorem checkUnsubscribeFrame_eq_ok {permissions : Option ClientPermissions}
    {message : FrameFields} {passed : SubscriptionRequest × List JsonValue} :
    checkUnsubscribeFrame permissions message = .ok passed ↔
      ∃ granted feeds symbols provider,
        PassesUnsubscribeFrame permissions message granted feeds symbols provider ∧
          passed = (requestOf message.provider feeds symbols, feeds) := by
  unfold checkUnsubscribeFrame
  simp only [bind_eq_ok, askedSymbols_eq_ok, authenticatedClient_eq_ok, isFlowRequest_eq_ok,
    checkSymbols_eq_ok]
  constructor
  · rintro ⟨feeds, known, symbols, listed, granted, client, _, valid, _, permitted, _,
      ⟨provider, named, -⟩, same⟩
    rw [named, checkProvider_string] at permitted
    exact ⟨granted, feeds, symbols, provider,
      ⟨⟨client, known, listed⟩, named, valid.1, permitted⟩, (Except.ok.inj same).symm⟩
  · rintro ⟨granted, feeds, symbols, provider, passes, rfl⟩
    refine ⟨feeds, passes.known, symbols, passes.listed, granted, passes.client, (),
      ⟨passes.valid, fun _ => trivial⟩, (), ?_, _, ⟨provider, passes.named, rfl⟩, rfl⟩
    rw [passes.named, checkProvider_string]
    exact passes.permitted

end Streaming
end DataGateway
