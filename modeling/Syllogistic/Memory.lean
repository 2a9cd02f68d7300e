/-!
# Room in memory

A list whose length is known before its items are gets room for all of them at
once, and a text that is read gets room before its bytes are looked at. So a
request can be too large long before anything has been put into the room it asks
for. Whether there is so much memory is the host's affair, and may depend on all
that was asked for before; but where no address would reach so far, memory is not
even asked for.
-/

namespace Syllogistic

/-- Why there is no room. -/
inductive MemoryFault where
  /-- There are not so many bytes, and the program is broken off. -/
  | exhausted (bytes : Nat)
  /-- So many bytes have no addresses. -/
  | unaddressable
  deriving DecidableEq, Repr

namespace MemoryFault

def message : MemoryFault → String
  | exhausted bytes => "memory allocation of " ++ toString bytes ++ " bytes failed"
  | unaddressable => "capacity overflow"

/-- The exit code of a program that ends for want of room; one that is broken off
has none. -/
def exitCode : MemoryFault → Option Nat
  | exhausted _ => none
  | unaddressable => some 101

end MemoryFault

/-- What a program asks for at one time. -/
inductive MemoryRequest where
  /-- Room for so many items of so many bytes each. -/
  | items (count width : Nat)
  /-- A single thing of a size of its own, such as a name, a channel or a task. -/
  | object
  deriving DecidableEq, Repr

/-- From so many bytes on there are no addresses. -/
def addressLimit : Nat := Nat.pow 2 63

/-- Whether there are addresses for what is asked for. -/
def MemoryRequest.addressable : MemoryRequest → Bool
  | items count width => count * width < addressLimit
  | object => true

theorem MemoryRequest.addressable_items {count width : Nat} :
    (items count width).addressable = true ↔ count * width < addressLimit :=
  decide_eq_true_iff

/-- The memory of a host, with what the program has been granted so far. -/
structure Memory where
  /-- Why the first of some requests is refused after the others were granted, if it
  is. A list that grows, or takes more room than its items need, is refused if any of
  that is. -/
  refusal : List MemoryRequest → Option MemoryFault
  /-- What was granted, the last first. -/
  granted : List MemoryRequest := []

namespace Memory

/-- A host that grants all that has addresses. -/
def ample : Memory := { refusal := fun _ => none }

/-- Asks for one thing. -/
def reserve (memory : Memory) (request : MemoryRequest) : Except MemoryFault Memory :=
  if request.addressable then
    match memory.refusal (request :: memory.granted) with
    | some fault => .error fault
    | none => .ok { memory with granted := request :: memory.granted }
  else .error .unaddressable

/-- Asks for one thing after the other, until something is refused. -/
def serve (memory : Memory) : List MemoryRequest → Except MemoryFault Memory
  | [] => .ok memory
  | request :: rest =>
    match memory.reserve request with
    | .error fault => .error fault
    | .ok memory => memory.serve rest

/-- Whether all requests are granted, one after the other. -/
def Serves (memory : Memory) (requests : List MemoryRequest) : Prop :=
  ∃ after, memory.serve requests = .ok after

variable {memory after : Memory} {request : MemoryRequest} {requests rest : List MemoryRequest}

theorem reserve_unaddressable (h : request.addressable = false) :
    memory.reserve request = .error .unaddressable := by
  rw [reserve, h]
  rfl

theorem addressable_of_reserve (h : memory.reserve request = .ok after) :
    request.addressable = true := by
  cases haddressable : request.addressable with
  | true => rfl
  | false =>
      rw [reserve_unaddressable haddressable] at h
      cases h

theorem serve_cons (h : memory.reserve request = .ok after) :
    memory.serve (request :: rest) = after.serve rest := by
  rw [serve, h]

theorem serve_append (h : memory.serve requests = .ok after) :
    memory.serve (requests ++ rest) = after.serve rest := by
  induction requests generalizing memory with
  | nil =>
      cases h
      rfl
  | cons request requests ih =>
      rw [serve] at h
      split at h
      · cases h
      · next hreserve =>
          rw [List.cons_append, serve_cons hreserve]
          exact ih h

theorem Serves.cons_inv (h : memory.Serves (request :: rest)) :
    ∃ after, memory.reserve request = .ok after ∧ after.Serves rest := by
  obtain ⟨last, h⟩ := h
  rw [serve] at h
  split at h
  · cases h
  · next after hreserve => exact ⟨after, hreserve, last, h⟩

theorem serves_singleton :
    memory.Serves [request] ↔ ∃ after, memory.reserve request = .ok after := by
  constructor
  · intro h
    obtain ⟨after, hreserve, -⟩ := h.cons_inv
    exact ⟨after, hreserve⟩
  · rintro ⟨after, hreserve⟩
    exact ⟨after, serve_cons hreserve⟩

theorem Serves.append_inv (h : memory.Serves (requests ++ rest)) :
    ∃ after, memory.serve requests = .ok after ∧ after.Serves rest := by
  induction requests generalizing memory with
  | nil => exact ⟨memory, rfl, h⟩
  | cons request requests ih =>
      obtain ⟨next, hreserve, hnext⟩ := h.cons_inv
      obtain ⟨after, hserve, hrest⟩ := ih hnext
      exact ⟨after, (serve_cons hreserve).trans hserve, hrest⟩

/-- What is granted has addresses. -/
theorem Serves.addressable (h : memory.Serves requests) :
    ∀ request ∈ requests, request.addressable = true := by
  induction requests generalizing memory with
  | nil => exact nofun
  | cons request requests ih =>
      obtain ⟨after, hreserve, hrest⟩ := h.cons_inv
      exact List.forall_mem_cons.mpr ⟨addressable_of_reserve hreserve, ih hrest⟩

theorem serves_of_ample (hgrants : memory.refusal = ample.refusal)
    (h : ∀ request ∈ requests, request.addressable = true) : memory.Serves requests := by
  induction requests generalizing memory with
  | nil => exact ⟨memory, rfl⟩
  | cons request requests ih =>
      obtain ⟨hfirst, hrest⟩ := List.forall_mem_cons.mp h
      have hreserve : memory.reserve request = .ok ⟨memory.refusal, request :: memory.granted⟩ := by
        rw [reserve, hgrants, hfirst]
        rfl
      obtain ⟨after, hafter⟩ := @ih ⟨memory.refusal, request :: memory.granted⟩ hgrants hrest
      exact ⟨after, (serve_cons hreserve).trans hafter⟩

/-- Where all is granted that has addresses, nothing else matters. -/
theorem serves_ample : ample.Serves requests ↔ ∀ request ∈ requests, request.addressable = true :=
  ⟨Serves.addressable, serves_of_ample rfl⟩

end Memory

end Syllogistic
