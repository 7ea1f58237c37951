import DataGateway.Trading.ClientOrderId

/-!
# Ownership claims and the store commands on them

The store keeps three keys for a broker symbol: the durable claim, the fence lease and the owner's
index entry.  Every command or script of the guard reads and writes them in one atomic step, so each
is a function of the three.  A claim is stored as a text; Python and the scripts write different
texts for the same claim.
-/

namespace DataGateway
namespace Trading

/-- A decoded ownership claim. -/
structure Claim where
  /-- The client that owns the symbol; an object without a readable owner reads
  as the empty text. -/
  owner : String
  /-- When the claim was taken. -/
  claimedAt : Option String
  /-- The token of a broker write that may be under way. -/
  mutationPending : Option String
  /-- Why the claim was frozen. -/
  frozenReason : Option String
  deriving DecidableEq, Repr

namespace Claim

/-- `claim.get(...)` in a condition: absent and empty texts are false. -/
def truthy (field : Option String) : Bool := field.getD "" != ""

/-- The scripts refuse to release a claim that carries either field. -/
def locked (claim : Claim) : Prop := claim.mutationPending.isSome ∨ claim.frozenReason.isSome

instance (claim : Claim) : Decidable claim.locked := instDecidableOr

/-- The part of a claim that decides who may write: its owner and its freeze. -/
def standing (claim : Claim) : String × Option String := (claim.owner, claim.frozenReason)

end Claim

/-- How claims are written and read: `json.dumps` with sorted keys, `cjson.encode`, and the decoder
that both sides agree on.  A text that does not decode aborts a script. -/
class ClaimText (Raw : Type) where
  /-- `json.dumps(claim, separators=(",", ":"), sort_keys=True)`. -/
  dumps : Claim → Raw
  /-- `cjson.encode(claim)`. -/
  encode : Claim → Raw
  /-- The claim that a text holds, if it holds a JSON object. -/
  decode : Raw → Option Claim
  decode_dumps : ∀ claim, decode (dumps claim) = some claim
  decode_encode : ∀ claim, decode (encode claim) = some claim

attribute [simp] ClaimText.decode_dumps ClaimText.decode_encode

variable {Raw : Type}

/-- `json.loads` together with the shape checks of `_load_stored_claim`. -/
def loads [ClaimText Raw] (raw : Raw) : Option Claim :=
  (ClaimText.decode raw).filter fun claim => claim.owner != ""

theorem decode_of_loads [ClaimText Raw] {raw : Raw} {claim : Claim}
    (loaded : loads raw = some claim) : ClaimText.decode raw = some claim :=
  (Option.filter_eq_some_iff.mp loaded).1

/-- What the store holds for one broker symbol. -/
structure Cell (Raw : Type) where
  /-- The claim key. -/
  claim : Option Raw
  /-- The fence key. -/
  fence : Option String
  /-- The owners whose index contains the symbol. -/
  indexed : List String
  deriving DecidableEq

/-- The stored claim, decoded. -/
def Cell.stored [ClaimText Raw] (cell : Cell Raw) : Option Claim :=
  cell.claim.bind ClaimText.decode

/-- The marker in the stored claim. -/
def Cell.marker [ClaimText Raw] (cell : Cell Raw) : Option String :=
  cell.stored.bind Claim.mutationPending

section Stored

variable [ClaimText Raw]

theorem Cell.stored_of_claim {cell : Cell Raw} {raw : Raw} {claim : Claim}
    (key : cell.claim = some raw) (decoded : ClaimText.decode raw = some claim) :
    cell.stored = some claim := by simp [Cell.stored, key, decoded]

theorem Cell.stored_encode {cell : Cell Raw} {claim : Claim}
    (key : cell.claim = some (ClaimText.encode claim)) : cell.stored = some claim :=
  Cell.stored_of_claim key (ClaimText.decode_encode claim)

theorem Cell.stored_dumps {cell : Cell Raw} {claim : Claim}
    (key : cell.claim = some (ClaimText.dumps claim)) : cell.stored = some claim :=
  Cell.stored_of_claim key (ClaimText.decode_dumps claim)

theorem Cell.stored_congr {left right : Cell Raw} (same : left.claim = right.claim) :
    left.stored = right.stored := by rw [Cell.stored, Cell.stored, same]

end Stored

/-- A command or script of the guard other than reading the claim. -/
inductive StoreOp (Raw : Type)
  /-- `SET fence token NX PX`. -/
  | acquireFence (token : String)
  /-- Extend the lease if the token still holds it. -/
  | renewFence (token : String)
  /-- `_COMPARE_AND_DELETE_FENCE`. -/
  | compareAndDeleteFence (token : String)
  /-- `_CLAIM_AND_INDEX`. -/
  | claimAndIndex (owner : String) (raw : Raw)
  /-- `_COMPARE_AND_DELETE`. -/
  | compareAndDelete (owner : String)
  /-- `_RELEASE_CLAIM_UNDER_FENCE`. -/
  | releaseClaimUnderFence (owner token : String)
  /-- `_BEGIN_MUTATION`. -/
  | beginMutation (token : String)
  /-- `_COMPLETE_MUTATION`. -/
  | completeMutation (token : String)
  /-- `_THAW_CLAIM`. -/
  | thawClaim (expected : Raw) (delete : Bool) (owner : String)
  /-- `SET claim`. -/
  | setClaim (raw : Raw)
  /-- `SADD owner-index symbol`. -/
  | ensureIndex (owner : String)
  deriving DecidableEq

section Scripts

variable [DecidableEq Raw] [ClaimText Raw]

/-- The release that both release scripts perform once their own test has passed. -/
def releaseIfUnlocked (owner : String) (cell : Cell Raw) : Option (Bool × Cell Raw) :=
  match cell.claim with
  | none => some (false, cell)
  | some raw =>
      match ClaimText.decode raw with
      | none => none
      | some claim =>
          if claim.owner ≠ owner then some (false, cell)
          else if claim.locked then some (false, cell)
          else some (true, { cell with claim := none, indexed := cell.indexed.erase owner })

/-- One atomic command: its reply and the keys afterwards; `none` is a script error. -/
def StoreOp.apply (op : StoreOp Raw) (cell : Cell Raw) : Option (Bool × Cell Raw) :=
  match op with
  | .acquireFence token =>
      match cell.fence with
      | none => some (true, { cell with fence := some token })
      | some _ => some (false, cell)
  | .renewFence token => some (cell.fence = some token, cell)
  | .compareAndDeleteFence token =>
      if cell.fence = some token then some (true, { cell with fence := none })
      else some (false, cell)
  | .claimAndIndex owner raw =>
      match cell.claim with
      | none => some (true, { cell with claim := some raw, indexed := cell.indexed.insert owner })
      | some _ => some (false, cell)
  | .compareAndDelete owner => releaseIfUnlocked owner cell
  | .releaseClaimUnderFence owner token =>
      if cell.fence ≠ some token then some (false, cell) else releaseIfUnlocked owner cell
  | .beginMutation token =>
      match cell.claim with
      | none => some (false, cell)
      | some raw =>
          match ClaimText.decode raw with
          | none => none
          | some claim =>
              if claim.mutationPending.isSome then some (false, cell)
              else some (true, { cell with
                claim := some (ClaimText.encode { claim with mutationPending := some token }) })
  | .completeMutation token =>
      match cell.claim with
      | none => some (false, cell)
      | some raw =>
          match ClaimText.decode raw with
          | none => none
          | some claim =>
              if claim.mutationPending ≠ some token then some (false, cell)
              else some (true, { cell with
                claim := some (ClaimText.encode { claim with mutationPending := none }) })
  | .thawClaim expected delete owner =>
      if cell.claim ≠ some expected then some (false, cell)
      else if delete then
        some (true, { cell with claim := none, indexed := cell.indexed.erase owner })
      else
        match ClaimText.decode expected with
        | none => none
        | some claim =>
            some (true, { cell with
              claim := some (ClaimText.encode
                { claim with frozenReason := none, mutationPending := none }) })
  | .setClaim raw => some (true, { cell with claim := some raw })
  | .ensureIndex owner => some (true, { cell with indexed := cell.indexed.insert owner })

/-! ## What a command can do to the claim -/

/-- The commands that release a claim for an owner. -/
inductive StoreOp.Releases : StoreOp Raw → String → Prop
  | plain (owner : String) : Releases (.compareAndDelete owner) owner
  | underFence (owner token : String) : Releases (.releaseClaimUnderFence owner token) owner

/-- Every way in which a command can change the claim key. -/
inductive ClaimEffect : StoreOp Raw → Cell Raw → Bool → Cell Raw → Prop
  /-- The claim is as it was. -/
  | kept {op cell ok after} (same : after.claim = cell.claim)
      (idle : ∀ token, op ≠ .beginMutation token ∧ op ≠ .completeMutation token ∨ ok = false) :
      ClaimEffect op cell ok after
  /-- A claim is created where there was none. -/
  | created {owner raw cell after} (absent : cell.claim = none) (now : after.claim = some raw) :
      ClaimEffect (.claimAndIndex owner raw) cell true after
  /-- An unlocked claim is released. -/
  | released {op owner cell after claim} (release : StoreOp.Releases op owner)
      (stored : cell.stored = some claim) (owned : claim.owner = owner) (free : ¬ claim.locked)
      (now : after.claim = none) : ClaimEffect op cell true after
  /-- A marker is set on a claim that has none. -/
  | begun {token cell after claim} (stored : cell.stored = some claim)
      (unmarked : claim.mutationPending = none)
      (now : after.claim =
        some (ClaimText.encode { claim with mutationPending := some token })) :
      ClaimEffect (.beginMutation token) cell true after
  /-- The matching marker is removed. -/
  | completed {token cell after claim} (stored : cell.stored = some claim)
      (marked : claim.mutationPending = some token)
      (now : after.claim = some (ClaimText.encode { claim with mutationPending := none })) :
      ClaimEffect (.completeMutation token) cell true after
  /-- The reviewed claim is thawed or deleted. -/
  | thawed {expected delete owner cell after} (reviewed : cell.claim = some expected) :
      ClaimEffect (.thawClaim expected delete owner) cell true after
  /-- The claim is overwritten. -/
  | written {raw cell after} (now : after.claim = some raw) :
      ClaimEffect (.setClaim raw) cell true after

omit [DecidableEq Raw] in
theorem releaseIfUnlocked_effect {op : StoreOp Raw} {owner : String} {cell after : Cell Raw}
    {ok : Bool} (release : StoreOp.Releases op owner)
    (applied : releaseIfUnlocked owner cell = some (ok, after)) : ClaimEffect op cell ok after := by
  have idle : ∀ token, op ≠ .beginMutation token ∧ op ≠ .completeMutation token ∨
      ok = false := by
    intro token
    left
    cases release <;> exact ⟨nofun, nofun⟩
  unfold releaseIfUnlocked at applied
  split at applied
  · obtain ⟨-, rfl⟩ := Prod.mk.inj (Option.some.inj applied)
    exact .kept rfl idle
  · rename_i raw key
    split at applied
    · simp at applied
    · rename_i claim decoded
      split_ifs at applied with foreign locked
      · obtain ⟨-, rfl⟩ := Prod.mk.inj (Option.some.inj applied)
        exact .kept rfl idle
      · obtain ⟨-, rfl⟩ := Prod.mk.inj (Option.some.inj applied)
        exact .kept rfl idle
      · obtain ⟨rfl, rfl⟩ := Prod.mk.inj (Option.some.inj applied)
        exact .released release (Cell.stored_of_claim key decoded) (not_not.mp foreign) locked rfl

/-- The inversion rule for the claim key. -/
theorem StoreOp.apply_claim {op : StoreOp Raw} {cell after : Cell Raw} {ok : Bool}
    (applied : op.apply cell = some (ok, after)) : ClaimEffect op cell ok after := by
  cases op with
  | acquireFence token =>
      simp only [StoreOp.apply] at applied
      split at applied <;> obtain ⟨-, rfl⟩ := Prod.mk.inj (Option.some.inj applied) <;>
        exact .kept rfl fun _ => .inl ⟨nofun, nofun⟩
  | renewFence token =>
      obtain ⟨-, rfl⟩ := Prod.mk.inj (Option.some.inj applied)
      exact .kept rfl fun _ => .inl ⟨nofun, nofun⟩
  | compareAndDeleteFence token =>
      simp only [StoreOp.apply] at applied
      split at applied <;> obtain ⟨-, rfl⟩ := Prod.mk.inj (Option.some.inj applied) <;>
        exact .kept rfl fun _ => .inl ⟨nofun, nofun⟩
  | claimAndIndex owner raw =>
      simp only [StoreOp.apply] at applied
      split at applied
      · rename_i absent
        obtain ⟨rfl, rfl⟩ := Prod.mk.inj (Option.some.inj applied)
        exact .created absent rfl
      · obtain ⟨-, rfl⟩ := Prod.mk.inj (Option.some.inj applied)
        exact .kept rfl fun _ => .inl ⟨nofun, nofun⟩
  | compareAndDelete owner => exact releaseIfUnlocked_effect (.plain owner) applied
  | releaseClaimUnderFence owner token =>
      simp only [StoreOp.apply] at applied
      split at applied
      · obtain ⟨-, rfl⟩ := Prod.mk.inj (Option.some.inj applied)
        exact .kept rfl fun _ => .inl ⟨nofun, nofun⟩
      · exact releaseIfUnlocked_effect (.underFence owner token) applied
  | beginMutation token =>
      simp only [StoreOp.apply] at applied
      split at applied
      · obtain ⟨rfl, rfl⟩ := Prod.mk.inj (Option.some.inj applied)
        exact .kept rfl fun _ => .inr rfl
      · rename_i raw key
        split at applied
        · simp at applied
        · rename_i claim decoded
          split_ifs at applied with pending
          · obtain ⟨rfl, rfl⟩ := Prod.mk.inj (Option.some.inj applied)
            exact .kept rfl fun _ => .inr rfl
          · obtain ⟨rfl, rfl⟩ := Prod.mk.inj (Option.some.inj applied)
            exact .begun (Cell.stored_of_claim key decoded)
              (Option.not_isSome_iff_eq_none.mp pending) rfl
  | completeMutation token =>
      simp only [StoreOp.apply] at applied
      split at applied
      · obtain ⟨rfl, rfl⟩ := Prod.mk.inj (Option.some.inj applied)
        exact .kept rfl fun _ => .inr rfl
      · rename_i raw key
        split at applied
        · simp at applied
        · rename_i claim decoded
          split_ifs at applied with other
          · obtain ⟨rfl, rfl⟩ := Prod.mk.inj (Option.some.inj applied)
            exact .kept rfl fun _ => .inr rfl
          · obtain ⟨rfl, rfl⟩ := Prod.mk.inj (Option.some.inj applied)
            exact .completed (Cell.stored_of_claim key decoded) (not_not.mp other) rfl
  | thawClaim expected delete owner =>
      simp only [StoreOp.apply] at applied
      split_ifs at applied with moved deleted
      · obtain ⟨-, rfl⟩ := Prod.mk.inj (Option.some.inj applied)
        exact .kept rfl fun _ => .inl ⟨nofun, nofun⟩
      · obtain ⟨rfl, rfl⟩ := Prod.mk.inj (Option.some.inj applied)
        exact .thawed (not_not.mp moved)
      · split at applied
        · simp at applied
        · obtain ⟨rfl, rfl⟩ := Prod.mk.inj (Option.some.inj applied)
          exact .thawed (not_not.mp moved)
  | setClaim raw =>
      obtain ⟨rfl, rfl⟩ := Prod.mk.inj (Option.some.inj applied)
      exact .written rfl
  | ensureIndex owner =>
      obtain ⟨-, rfl⟩ := Prod.mk.inj (Option.some.inj applied)
      exact .kept rfl fun _ => .inl ⟨nofun, nofun⟩

/-- A successful claim-and-index stores the text it was given. -/
theorem StoreOp.apply_claimAndIndex {owner : String} {raw : Raw} {cell after : Cell Raw}
    (applied : StoreOp.apply (.claimAndIndex owner raw) cell = some (true, after)) :
    after.claim = some raw := by
  simp only [StoreOp.apply] at applied
  split at applied
  · obtain ⟨-, rfl⟩ := Prod.mk.inj (Option.some.inj applied)
    rfl
  · simp at applied

end Scripts

/-! ## A concrete claim text -/

/-- A text that shows which side wrote it. -/
inductive PlainText
  /-- Written by `json.dumps`. -/
  | python (claim : Claim)
  /-- Written by `cjson.encode`. -/
  | lua (claim : Claim)
  /-- Not a claim. -/
  | other (text : String)
  deriving DecidableEq, Repr

instance : ClaimText PlainText where
  dumps := .python
  encode := .lua
  decode
    | .python claim => some claim
    | .lua claim => some claim
    | .other _ => none
  decode_dumps _ := rfl
  decode_encode _ := rfl

end Trading
end DataGateway
