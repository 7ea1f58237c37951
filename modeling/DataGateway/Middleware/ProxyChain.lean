import DataGateway.Middleware.ClientIp

/-!
# Chains of proxies

A request comes from a sender over any number of trusted proxies.  Each of them appends the address
it saw to the header, so only the entries before those are the sender's own words.
-/

namespace DataGateway
namespace Middleware

/-- An end of a connection, as a proxy writes it down. -/
structure Peer where
  text : String
  address : IpAddress
  parsed : IpAddress.parse text.toList = some address
  single : ',' ∉ text.toList
  trimmed : Text.stripChars text.toList = text.toList

/-- A sender and the trusted proxies that its request passes. -/
structure ProxyChain (trustedProxies : List IpNetwork) where
  sender : Peer
  proxies : List Peer
  trusted : ∀ proxy ∈ proxies, inTrusted trustedProxies proxy.address

/-- A proxy appends the address of the peer it saw. -/
def appendPeer (header : Option Bytes) (peer : Peer) : Option Bytes :=
  match header with
  | none => some (encodeUtf8 peer.text)
  | some bytes => some (bytes ++ encodeUtf8 ("," ++ (" " ++ peer.text)))

namespace ProxyChain

variable {trustedProxies : List IpNetwork}

/-- The peers that the proxies saw. -/
def seen (chain : ProxyChain trustedProxies) : List Peer := (chain.sender :: chain.proxies).dropLast

/-- The peer that the gateway sees. -/
def last (chain : ProxyChain trustedProxies) : Peer :=
  (chain.sender :: chain.proxies).getLast (List.cons_ne_nil _ _)

/-- The header that arrives when the sender wrote one or none. -/
def forwarded (chain : ProxyChain trustedProxies) (written : Option Bytes) : Option Bytes :=
  chain.seen.foldl appendPeer written

/-- The scope of the request, with other headers before and after. -/
def scope (chain : ProxyChain trustedProxies) (before after : List (Bytes × Bytes))
    (written : Option Bytes) : ClientScope where
  headers := before ++ ((chain.forwarded written).map (forwardedForName, ·)).toList ++ after
  client := some chain.last.text

end ProxyChain

/-! ## What the header holds -/

/-- The header decodes, or there is none. -/
def Decodes (header : Option Bytes) : Prop := ∀ bytes, header = some bytes →
    (decodeUtf8 bytes).isSome

/-- The entries of a header. -/
def headerIps (header : Option Bytes) : List String :=
  match header.bind decodeUtf8 with
  | some text => forwardedIps text
  | none => []

theorem Peer.text_ne_nil (peer : Peer) : peer.text.toList ≠ [] := by
  intro empty
  have parsed := peer.parsed
  rw [empty] at parsed
  cases parsed

/-- A peer is one entry. -/
theorem forwardedIps_peer (peer : Peer) : forwardedIps peer.text = [peer.text] := by
  simp [forwardedIps, List.splitOn_eq_singleton peer.single, peer.trimmed, peer.text_ne_nil]

theorem forwardedIps_append (text : String) (peer : Peer) :
    forwardedIps (text ++ ("," ++ (" " ++ peer.text))) = forwardedIps text ++ [peer.text] := by
  have chars : (text ++ ("," ++ (" " ++ peer.text))).toList = text.toList ++ ',' :: ' ' ::
      peer.text.toList := by
    simp
  have single : ',' ∉ ' ' :: peer.text.toList := by
    simpa using peer.single
  have trimmed : Text.stripChars (' ' :: peer.text.toList) = peer.text.toList := by
    have same := peer.trimmed
    unfold Text.stripChars at same ⊢
    simpa [Text.isSpace] using same
  simp only [forwardedIps, chars, List.splitOn_append_cons_self, List.splitOn_eq_singleton single,
    List.map_append, List.filter_append, List.map_cons, List.map_nil, trimmed]
  simp [peer.text_ne_nil]

@[simp]
theorem decodes_appendPeer (header : Option Bytes) (peer : Peer) :
    Decodes (appendPeer header peer) ↔ Decodes header := by
  cases header with
  | none => simp [Decodes, appendPeer]
  | some bytes => simp [Decodes, appendPeer, isSome_decodeUtf8_append]

theorem headerIps_appendPeer {header : Option Bytes} (decodes : Decodes header) (peer : Peer) :
    headerIps (appendPeer header peer) = headerIps header ++ [peer.text] := by
  cases header with
  | none => simp [headerIps, appendPeer, forwardedIps_peer]
  | some bytes =>
      obtain ⟨text, decoded⟩ := Option.isSome_iff_exists.mp (decodes bytes rfl)
      have whole : decodeUtf8 (bytes ++ encodeUtf8 ("," ++ (" " ++ peer.text))) =
          some (text ++ ("," ++ (" " ++ peer.text))) := by
        rw [decodeUtf8_eq_some.mp decoded, ← encodeUtf8_append, decodeUtf8_encodeUtf8]
      simp [headerIps, appendPeer, decoded, whole, forwardedIps_append]

theorem decodes_foldl (peers : List Peer) (header : Option Bytes) :
    Decodes (peers.foldl appendPeer header) ↔ Decodes header := by
  induction peers generalizing header with
  | nil => rfl
  | cons peer peers ih => rw [List.foldl_cons, ih, decodes_appendPeer]

/-- The proxies add one entry for each peer they saw. -/
theorem headerIps_foldl (peers : List Peer) {header : Option Bytes} (decodes : Decodes header) :
    headerIps (peers.foldl appendPeer header) = headerIps header ++ peers.map (·.text) := by
  induction peers generalizing header with
  | nil => simp
  | cons peer peers ih =>
      rw [List.foldl_cons, ih ((decodes_appendPeer header peer).mpr decodes),
        headerIps_appendPeer decodes]
      simp

/-! ## What the walk finds -/

section Walk

variable {trustedProxies : List IpNetwork}

/-- The walk passes trusted peers. -/
theorem firstUntrusted_append_trusted (ips : List String) {peers : List Peer}
    (trusted : ∀ peer ∈ peers, inTrusted trustedProxies peer.address) :
    firstUntrusted trustedProxies (ips ++ peers.map (·.text)) =
      firstUntrusted trustedProxies ips := by
  unfold firstUntrusted
  rw [List.reverse_append, List.find?_append, List.find?_eq_none.mpr, Option.none_or]
  intro ip mem
  obtain ⟨peer, listed, rfl⟩ := List.mem_map.mp (List.mem_reverse.mp mem)
  simp [peer.parsed, trusted peer listed]

/-- The walk stops at an untrusted peer. -/
theorem firstUntrusted_append_untrusted (ips : List String) {peer : Peer}
    (untrusted : inTrusted trustedProxies peer.address = false) :
    firstUntrusted trustedProxies (ips ++ [peer.text]) = some peer.text := by
  simp [firstUntrusted, peer.parsed, untrusted]

variable {scope : ClientScope}

/-- The result, from the entries of the header. -/
theorem getClientIp_of_decodes (some_ : trustedProxies ≠ [])
    (decodes : Decodes (scope.header forwardedForName)) :
    getClientIp true trustedProxies scope =
      some (match headerIps (scope.header forwardedForName) with
        | [] => scope.socketPeer
        | leftmost :: rest =>
            (firstUntrusted trustedProxies (leftmost :: rest)).getD leftmost) := by
  unfold getClientIp headerIps
  rw [if_neg (by decide)]
  cases header : scope.header forwardedForName with
  | none => rfl
  | some bytes =>
      obtain ⟨text, decoded⟩ := Option.isSome_iff_exists.mp (decodes bytes header)
      by_cases empty : bytes = []
      · subst empty
        have nothing : forwardedIps "" = [] := by simp [forwardedIps, Text.stripChars]
        have same : decodeUtf8 [] = some "" := decodeUtf8_eq_some.mpr rfl
        simp [same, nothing]
      · simp only [empty, if_false, decoded, Option.bind_some]
        cases forwardedIps text with
        | nil => rfl
        | cons leftmost rest => simp [some_]

/-- A header that does not decode raises. -/
theorem getClientIp_of_not_decodes (raises : ¬ Decodes (scope.header forwardedForName)) :
    getClientIp true trustedProxies scope = none := by
  obtain ⟨bytes, header, undecoded⟩ : ∃ bytes, scope.header forwardedForName = some bytes ∧
      decodeUtf8 bytes = none := by
    simpa [Decodes] using raises
  have some_ : bytes ≠ [] := by
    rintro rfl
    cases undecoded
  simp [getClientIp, header, some_, undecoded]

end Walk

/-! ## What the sender controls -/

namespace ProxyChain

variable {trustedProxies : List IpNetwork} {before after : List (Bytes × Bytes)}

/-- The gateway reads the header that the last proxy sent. -/
theorem header_scope (chain : ProxyChain trustedProxies)
    (others : ∀ header ∈ before ++ after, header.1 ≠ forwardedForName) (written : Option Bytes) :
    (chain.scope before after written).header forwardedForName = chain.forwarded written := by
  have missing (headers : List (Bytes × Bytes))
      (sub : ∀ header ∈ headers, header ∈ before ++ after) :
      headers.reverse.find? (fun header => header.1 = forwardedForName) = none :=
    List.find?_eq_none.mpr fun header mem => by
      simpa using others header (sub header (List.mem_reverse.mp mem))
  unfold scope ClientScope.header
  rw [List.reverse_append, List.reverse_append, List.find?_append, List.find?_append,
    missing after fun header => List.mem_append_right _,
    missing before fun header => List.mem_append_left _, Option.none_or, Option.or_none]
  cases chain.forwarded written <;> simp

/-- The entries that reach the gateway are the sender's own and then the ones of the proxies. -/
theorem getClientIp_scope (some_ : trustedProxies ≠ []) (chain : ProxyChain trustedProxies)
    (others : ∀ header ∈ before ++ after, header.1 ≠ forwardedForName) {written : Option Bytes}
    (decodes : Decodes written) :
    getClientIp true trustedProxies (chain.scope before after written) =
      some (match headerIps written ++ chain.seen.map (·.text) with
        | [] => chain.last.text
        | leftmost :: rest =>
            (firstUntrusted trustedProxies (leftmost :: rest)).getD leftmost) := by
  have arrived := (decodes_foldl chain.seen written).mpr decodes
  rw [getClientIp_of_decodes some_ (by rwa [header_scope chain others]), header_scope chain others,
    forwarded, headerIps_foldl chain.seen decodes]
  rfl

/-- An entry that is no address comes back when the gateway trusts every peer that was seen. -/
theorem getClientIp_junk (some_ : trustedProxies ≠ []) (chain : ProxyChain trustedProxies)
    (others : ∀ header ∈ before ++ after, header.1 ≠ forwardedForName)
    (trusts : ∀ peer ∈ chain.seen, inTrusted trustedProxies peer.address) (junk : String)
    (entry : forwardedIps junk = [junk]) (noAddress : IpAddress.parse junk.toList = none) :
    getClientIp true trustedProxies (chain.scope before after (some (encodeUtf8 junk))) =
      some junk := by
  have ips : headerIps (some (encodeUtf8 junk)) = [junk] := by
    simp [headerIps, entry]
  have walk : firstUntrusted trustedProxies ([junk] ++ chain.seen.map (·.text)) = none := by
    rw [firstUntrusted_append_trusted _ trusts]
    simp [firstUntrusted, noAddress]
  rw [getClientIp_scope some_ chain others (by simp [Decodes]), ips, List.singleton_append]
  rw [List.singleton_append] at walk
  simp [walk]

/-- The sender is what the walk finds behind at least one proxy when the gateway
does not trust it. -/
theorem getClientIp_sender (some_ : trustedProxies ≠ []) (chain : ProxyChain trustedProxies)
    (others : ∀ header ∈ before ++ after, header.1 ≠ forwardedForName)
      (proxied : chain.proxies ≠ [])
    (untrusted : inTrusted trustedProxies chain.sender.address = false) {written : Option Bytes}
    (decodes : Decodes written) :
    getClientIp true trustedProxies (chain.scope before after written) =
      some chain.sender.text := by
  have seen : chain.seen = chain.sender :: chain.proxies.dropLast := by
    rw [ProxyChain.seen, List.dropLast_cons_of_ne_nil proxied]
  have walk : firstUntrusted trustedProxies (headerIps written ++ chain.seen.map (·.text)) =
      some chain.sender.text := by
    rw [seen, List.map_cons, List.append_cons, firstUntrusted_append_trusted _
      fun peer mem => chain.trusted peer (List.dropLast_subset _ mem),
      firstUntrusted_append_untrusted _ untrusted]
  rw [getClientIp_scope some_ chain others decodes]
  cases ips : headerIps written ++ chain.seen.map (·.text) with
  | nil => simp [seen] at ips
  | cons leftmost rest =>
      rw [ips] at walk
      simp [walk]

/-- What the sender writes has no influence if and only if a proxy stands before the gateway and the
sender is none of the trusted addresses; a header that does not decode raises in any case. -/
theorem client_ip_iff (trustedProxies : List IpNetwork) (some_ : trustedProxies ≠ [])
    (chain : ProxyChain trustedProxies) (before after : List (Bytes × Bytes))
    (others : ∀ header ∈ before ++ after, header.1 ≠ forwardedForName) :
    ((∀ first second, Decodes first → Decodes second → ∃ ip,
        getClientIp true trustedProxies (chain.scope before after first) = some ip ∧
          getClientIp true trustedProxies (chain.scope before after second) = some ip ∧
          (chain.proxies = [] → ip = chain.last.text)) ↔
      chain.proxies ≠ [] ∧ inTrusted trustedProxies chain.sender.address = false) ∧
      ∀ written, ¬ Decodes written →
        getClientIp true trustedProxies (chain.scope before after written) = none := by
  refine ⟨⟨fun same => ?_, ?_⟩, fun written raises => ?_⟩
  · by_contra exposed
    have trusts : ∀ peer ∈ chain.seen, inTrusted trustedProxies peer.address := by
      intro peer mem
      by_cases direct : chain.proxies = []
      · simp [seen, direct] at mem
      · rcases List.mem_cons.mp (List.dropLast_subset _ mem) with rfl | mem
        · exact Bool.eq_true_of_not_eq_false fun untrusted => exposed ⟨direct, untrusted⟩
        · exact chain.trusted peer mem
    obtain ⟨ip, first, second, -⟩ := same (some (encodeUtf8 "x")) (some (encodeUtf8 "y"))
      (by simp [Decodes]) (by simp [Decodes])
    have x := getClientIp_junk some_ chain others trusts "x" (by decide) (by decide)
    have y := getClientIp_junk some_ chain others trusts "y" (by decide) (by decide)
    have equal := (first.symm.trans x).symm.trans (second.symm.trans y)
    exact absurd (Option.some.inj equal) (by decide)
  · rintro ⟨proxied, untrusted⟩ first second firstDecodes secondDecodes
    exact ⟨_, getClientIp_sender some_ chain others proxied untrusted firstDecodes,
      getClientIp_sender some_ chain others proxied untrusted secondDecodes,
      fun direct => absurd direct proxied⟩
  · refine getClientIp_of_not_decodes fun decodes => raises ?_
    rw [header_scope chain others] at decodes
    exact (decodes_foldl chain.seen written).mp decodes

/-- `10.0.0.0/8`. -/
def privateNetwork : IpNetwork := ⟨false, 0x0A000000, 0xFF000000⟩

/-- A sender behind one proxy of the private network. -/
def proxiedChain : ProxyChain [privateNetwork] where
  sender := ⟨"203.0.113.9", .v4 0xCB007109, by decide, by decide, by decide⟩
  proxies := [⟨"10.0.0.1", .v4 0x0A000001, by decide, by decide, by decide⟩]
  trusted := by decide

/-- The sender without the proxy. -/
def directChain : ProxyChain [privateNetwork] where
  sender := proxiedChain.sender
  proxies := []
  trusted := fun _ mem => absurd mem List.not_mem_nil

/-- The sender behind the proxy has no influence. -/
theorem proxied_sender_is_found : ∃ ip,
    getClientIp true [privateNetwork] (proxiedChain.scope [] [] none) = some ip ∧
      getClientIp true [privateNetwork] (proxiedChain.scope [] [] (some (encodeUtf8 "1.1.1.1"))) =
        some ip ∧
      (proxiedChain.proxies = [] → ip = proxiedChain.last.text) :=
  (client_ip_iff [privateNetwork] (by decide) proxiedChain [] [] (by decide)).1.mpr (by decide)
    none (some (encodeUtf8 "1.1.1.1")) (by simp [Decodes]) (by simp [Decodes])

/-- The sender without the proxy is taken for what it writes. -/
theorem direct_sender_names_itself :
    directChain.last.text = "203.0.113.9" ∧
      getClientIp true [privateNetwork] (directChain.scope [] [] none) = some "203.0.113.9" ∧
      getClientIp true [privateNetwork] (directChain.scope [] [] (some (encodeUtf8 "1.1.1.1"))) =
        some "1.1.1.1" := by
  decide

end ProxyChain

end Middleware
end DataGateway
