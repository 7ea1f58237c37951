import DataGateway.Middleware.Asgi
import DataGateway.Python.IpAddress

/-!
# The address of a client

`GlobalRateLimitMiddleware._get_client_ip`, and the headers with which requests arrive over
a chain of proxies.
-/

namespace DataGateway
namespace Middleware

/-- The parts of an ASGI scope that name the client. -/
structure ClientScope where
  headers : List (Bytes × Bytes)
  client : Option String

/-- `dict(scope["headers"]).get(name)`. -/
def ClientScope.header (scope : ClientScope) (name : Bytes) : Option Bytes :=
  (scope.headers.reverse.find? fun header => header.1 = name).map Prod.snd

/-- `client[0] if client else "unknown"`. -/
def ClientScope.socketPeer (scope : ClientScope) : String := scope.client.getD "unknown"

/-- `b"x-forwarded-for"`. -/
def forwardedForName : Bytes := ascii "x-forwarded-for"

/-- `[ip.strip() for ip in text.split(",") if ip.strip()]`. -/
def forwardedIps (text : String) : List String :=
  (((text.toList.splitOn ',').map Text.stripChars).filter (· ≠ [])).map String.ofList

/-- Whether a text is an address in one of the trusted networks. -/
def inTrusted (trustedProxies : List IpNetwork) (address : IpAddress) : Bool :=
  trustedProxies.any (·.contains address)

/-- The walk from the closest hop backward. -/
def firstUntrusted (trustedProxies : List IpNetwork) (ips : List String) : Option String :=
  ips.reverse.find? fun ip =>
    match IpAddress.parse ip.toList with
    | some address => !inTrusted trustedProxies address
    | none => false

/-- `_get_client_ip`; `none` is a `UnicodeDecodeError`. -/
def getClientIp (trustProxyHeaders : Bool) (trustedProxies : List IpNetwork) (scope : ClientScope) :
    Option String :=
  if trustProxyHeaders = false then some scope.socketPeer
  else
    match scope.header forwardedForName with
    | none => some scope.socketPeer
    | some forwarded =>
        if forwarded = [] then some scope.socketPeer
        else
          match decodeUtf8 forwarded with
          | none => none
          | some text =>
              match forwardedIps text with
              | [] => some scope.socketPeer
              | leftmost :: rest =>
                  if trustedProxies = [] then some leftmost
                  else some ((firstUntrusted trustedProxies (leftmost :: rest)).getD leftmost)

/-! ## Texts of headers -/

/-- `str.encode()`. -/
def encodeUtf8 (text : String) : Bytes := text.toByteArray.data.toList

@[simp]
theorem decodeUtf8_encodeUtf8 (text : String) : decodeUtf8 (encodeUtf8 text) = some text := by
  have same : (⟨(encodeUtf8 text).toArray⟩ : ByteArray) = text.toByteArray := by simp [encodeUtf8]
  rw [decodeUtf8, same, String.fromUTF8?, dif_pos text.isValidUTF8]
  rfl

/-- Bytes decode to a text if and only if they are its encoding. -/
theorem decodeUtf8_eq_some {bytes : Bytes} {text : String} :
    decodeUtf8 bytes = some text ↔ bytes = encodeUtf8 text := by
  refine ⟨fun decoded => ?_, fun same => same ▸ decodeUtf8_encodeUtf8 text⟩
  unfold decodeUtf8 String.fromUTF8? at decoded
  split at decoded
  · obtain rfl := Option.some.inj decoded
    simp [encodeUtf8, String.fromUTF8]
  · cases decoded

theorem encodeUtf8_append (left right : String) :
    encodeUtf8 (left ++ right) = encodeUtf8 left ++ encodeUtf8 right := by
  simp [encodeUtf8, String.toByteArray_append, ByteArray.data_append]

/-- A text begins at every byte of a text that can be the first one of a character. -/
theorem isValidUTF8_front {whole : String} {front back : Bytes} {byte : UInt8}
    (parts : encodeUtf8 whole = front ++ byte :: back) (first : byte.IsUTF8FirstByte) :
    (⟨front.toArray⟩ : ByteArray).IsValidUTF8 := by
  have held : whole.toByteArray.data.toList = front ++ byte :: back := parts
  have data : whole.toByteArray = ⟨front.toArray⟩ ++ ⟨(byte :: back).toArray⟩ := by
    apply ByteArray.ext
    apply Array.toList_inj.mp
    simpa [ByteArray.data_append] using held
  have size : whole.toByteArray.size = front.length + (back.length + 1) :=
    (congrArg List.length held).trans List.length_append
  have inside : (⟨front.length⟩ : String.Pos.Raw) < whole.rawEndPos := by
    rw [String.Pos.Raw.lt_iff]
    simp only [String.byteIdx_rawEndPos, ← String.size_toByteArray, size]
    omega
  have here : whole.getUTF8Byte ⟨front.length⟩ inside = byte := by
    have at_ : whole.toByteArray.data.toList[front.length]? = some byte := by
      rw [held]
      simp
    rw [Array.getElem?_toList, Array.getElem?_eq_some_iff] at at_
    exact at_.2
  have valid : (⟨front.length⟩ : String.Pos.Raw).IsValid whole :=
    String.Pos.Raw.isValid_iff_isUTF8FirstByte.mpr (.inr ⟨inside, here ▸ first⟩)
  have extracted : whole.toByteArray.extract 0 front.length = ⟨front.toArray⟩ := by
    rw [data]
    exact ByteArray.extract_append_eq_left rfl
  exact extracted ▸ valid.isValidUTF8_extract_zero

/-- Bytes that do not decode do not either when a comma and a text follow. -/
theorem isSome_decodeUtf8_append (bytes : Bytes) (text : String) :
    (decodeUtf8 (bytes ++ encodeUtf8 ("," ++ text))).isSome = (decodeUtf8 bytes).isSome := by
  rw [Bool.eq_iff_iff, Option.isSome_iff_exists, Option.isSome_iff_exists]
  constructor
  · rintro ⟨whole, decoded⟩
    rw [decodeUtf8_eq_some, encodeUtf8_append] at decoded
    have valid := isValidUTF8_front decoded.symm (by decide)
    exact ⟨_, dif_pos valid⟩
  · rintro ⟨front, decoded⟩
    rw [decodeUtf8_eq_some] at decoded
    exact ⟨front ++ ("," ++ text), by rw [decoded, ← encodeUtf8_append, decodeUtf8_encodeUtf8]⟩

end Middleware
end DataGateway
