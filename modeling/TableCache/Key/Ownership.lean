import TableCache.Key.Basic
import TableCache.Numbered

/-!
# Who owns a key, and who hears of its end

Every key has a number of owners. A cache holds no owner's share of a key. Instead it watches the
key through an inbox of its own, and when the last owner gives the key up, the key's number is
posted to every inbox that watches it. A key without an owner is gone: nothing can be asked of it
any more except whether it is owned.
-/

namespace TableCache

/-- What is known of a key that has an owner: its label, the number of its owners, and the inboxes
that watch it, each at most once. -/
structure Identity where
  label : String
  owners : Nat
  watchers : List Nat
  deriving DecidableEq, Repr, Inhabited

/-- All owned keys and all open inboxes. An inbox holds the numbers posted to it, oldest first. -/
structure Keys where
  owned : Numbered Identity
  inboxes : Numbered (List Nat)
  deriving DecidableEq, Repr

namespace Keys

/-- No key and no inbox; the first key will have number one. -/
def empty : Keys := ⟨.startingAt 1, .empty⟩

instance : Inhabited Keys := ⟨empty⟩

/-- Whether a key has an owner. -/
def isOwned (keys : Keys) (id : Nat) : Bool := keys.owned.contains id

/-- A key by its number; a key without an owner has lost its label. -/
def key (keys : Keys) (id : Nat) : Key :=
  ⟨id, ((keys.owned.find? id).map Identity.label).getD ""⟩

/-- A new key with one owner, and its number. -/
def create (keys : Keys) (label : String) : Nat × Keys :=
  (keys.owned.next, { keys with owned := keys.owned.add ⟨label, 1, []⟩ })

/-- One more owner. -/
def share (keys : Keys) (id : Nat) : Keys :=
  { keys with
    owned := keys.owned.adjust id fun identity =>
      { identity with owners := identity.owners + 1 } }

/-- Posts a number to an inbox, if the inbox is still open. -/
def post (inboxes : Numbered (List Nat)) (id inbox : Nat) : Numbered (List Nat) :=
  inboxes.adjust inbox (· ++ [id])

/-- One owner less. The last owner takes the key with it, and every inbox that watches the key hears
of it. -/
def release (keys : Keys) (id : Nat) : Keys :=
  match keys.owned.find? id with
  | none => keys
  | some identity =>
      if identity.owners ≤ 1 then
        { keys with
          owned := keys.owned.erase id
          inboxes := identity.watchers.foldl (fun inboxes inbox => post inboxes id inbox)
            keys.inboxes }
      else
        { keys with
          owned := keys.owned.adjust id fun identity =>
            { identity with owners := identity.owners - 1 } }

/-- Lets an inbox watch a key. Watching twice is the same as watching once. -/
def watch (keys : Keys) (id inbox : Nat) : Keys :=
  { keys with
    owned := keys.owned.adjust id fun identity =>
      if inbox ∈ identity.watchers then identity
      else { identity with watchers := identity.watchers ++ [inbox] } }

/-- A new inbox, and its number. -/
def openInbox (keys : Keys) : Nat × Keys :=
  (keys.inboxes.next, { keys with inboxes := keys.inboxes.add [] })

/-- Closes an inbox; what was in it is lost, and so is what is posted to it later. -/
def closeInbox (keys : Keys) (inbox : Nat) : Keys :=
  { keys with inboxes := keys.inboxes.erase inbox }

/-- Takes everything out of an inbox, oldest first. -/
def collect (keys : Keys) (inbox : Nat) : List Nat × Keys :=
  ((keys.inboxes.find? inbox).getD [],
    { keys with inboxes := keys.inboxes.adjust inbox fun _ => [] })

end Keys

end TableCache
