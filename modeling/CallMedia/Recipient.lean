/-
  Those a controller reports to.

  A recipient is an id and the mailbox that its notices go to.  Two recipients count as the same when
  their ids agree, whatever their mailboxes.

  `Observers` is the register of those who want broadcasts: at most one entry an id, in the order of
  first registration.  Registering a known id again puts its new mailbox in the old place; removing an
  entry keeps the order of the rest.
-/

namespace CallMedia

/-- Someone a notice can be addressed to. -/
structure Recipient where
  id : String
  mailbox : String
deriving DecidableEq, Repr, Inhabited

/-- Recipients are told apart by their ids alone. -/
def Recipient.same (a b : Recipient) : Bool := a.id == b.id

/-- The register of observers. -/
structure Observers where
  toList : List Recipient := []
deriving DecidableEq, Repr, Inhabited

namespace Observers

/-- Put a recipient in the place of the entry with its id, or at the end if there is none. -/
def place (r : Recipient) : List Recipient → List Recipient
  | [] => [r]
  | o :: rest => if o.id = r.id then r :: rest else o :: place r rest

/-- Register a recipient. -/
def insert (os : Observers) (r : Recipient) : Observers := ⟨place r os.toList⟩

/-- Remove the entry with the given id. -/
def erase (os : Observers) (id : String) : Observers := ⟨os.toList.filter (fun o => o.id ≠ id)⟩

/-- The number of registered ids. -/
def size (os : Observers) : Nat := os.toList.length

/-- The ids in order of registration. -/
def ids (os : Observers) : List String := os.toList.map Recipient.id

/-- An id that is known keeps its place, and a new one comes last. -/
theorem ids_place (r : Recipient) (l : List Recipient) :
    (place r l).map Recipient.id =
      if r.id ∈ l.map Recipient.id then l.map Recipient.id else l.map Recipient.id ++ [r.id] := by
  induction l with
  | nil => rfl
  | cons o rest ih =>
    by_cases h : o.id = r.id
    · simp [place, h]
    · have h' : ¬ r.id = o.id := fun e => h e.symm
      simp only [place, h, if_false, List.map_cons, ih, List.mem_cons, h', false_or]
      split <;> simp

end Observers

end CallMedia
