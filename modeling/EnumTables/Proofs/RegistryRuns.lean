import EnumTables.Enumeration.Registry
import Mathlib.Data.List.Basic

/-!
# Registries are filled once

A registry serves requests one behind the other.  It stays empty as long as nothing can be made of the
requests, so that each of them is answered as if it were the only one; the first request of which an
enumeration can be made fills it; and all requests behind that one are given this enumeration, whatever
they ask to register.

* `Request` and `Answer` — what is asked of a registry, and what is said.
* `Request.product?` and `Request.effort` — what a request makes by itself, and what it looks at for that.
* `Registry.visits` — the visits of a run of requests.
* `content_serve` and `content_after` — what one request, and what a run of requests, makes of the content.
* `Registry.FilledOnce` — how the visits of a run are tied to its requests.
-/

namespace EnumTables.Enumeration

variable {S N : Type}

/-! ## Requests -/

/-- **What is asked of a registry.**  A function which makes an enumeration says what it looks at when it is
called. -/
inductive Request (S N : Type) where
  | get
  | getOrRegister (id : String) (definition : List (S × N)) (settings : List (Setting S N))
  | getOrInit (make : Unit → Enumeration S N × Taken)

/-- What a registry says to a request. -/
inductive Answer (S N : Type) where
  | found (content : Option (Enumeration S N))
  | registered (outcome : Except Rejection (Enumeration S N))
  | made (enumeration : Enumeration S N)

section

variable [DecidableEq S] [DecidableEq N] (names : MemberType S) (indexes : MemberType N)

/-- The enumeration which a request makes by itself, if it makes one. -/
def Request.product? : Request S N → Option (Enumeration S N)
  | .get => none
  | .getOrRegister id definition settings =>
    (register names indexes id definition settings).outcome.toOption
  | .getOrInit make => some (make ()).1

/-- What a request looks at to make an enumeration by itself. -/
def Request.effort : Request S N → Taken
  | .get => .nothing
  | .getOrRegister id definition settings => (register names indexes id definition settings).taken
  | .getOrInit make => (make ()).2

end

/-- **What a request is given where there is an enumeration.**  It does not depend on what would be
registered or made. -/
def Request.given (request : Request S N) (enumeration : Enumeration S N) : Answer S N :=
  match request with
  | .get => .found (some enumeration)
  | .getOrRegister .. => .registered (.ok enumeration)
  | .getOrInit _ => .made enumeration

namespace Registry

variable [DecidableEq S] [DecidableEq N] (names : MemberType S) (indexes : MemberType N)

/-- The visit of a request. -/
def serve (registry : Registry S N) : Request S N → Visit S N (Answer S N)
  | .get => ⟨.found registry.get, .nothing, registry⟩
  | .getOrRegister id definition settings =>
    let visit := registry.getOrRegister names indexes id definition settings
    ⟨.registered visit.answer, visit.taken, visit.registry⟩
  | .getOrInit make =>
    let visit := registry.getOrInit make
    ⟨.made visit.answer, visit.taken, visit.registry⟩

/-- **The visits of requests**, each to the registry which the one before it leaves. -/
def visits (registry : Registry S N) : List (Request S N) → List (Visit S N (Answer S N))
  | [] => []
  | request :: rest =>
    let visit := registry.serve names indexes request
    visit :: visit.registry.visits rest

/-- The registry behind some requests. -/
def after (registry : Registry S N) (requests : List (Request S N)) : Registry S N :=
  requests.foldl (fun registry request => (registry.serve names indexes request).registry) registry

variable {names indexes} {registry : Registry S N}

/-! ## One request -/

/-- A registry which holds an enumeration gives it, looks at nothing and stays as it is. -/
lemma serve_of_content {enumeration : Enumeration S N} (request : Request S N)
    (h : registry.content = some enumeration) :
    registry.serve names indexes request = ⟨request.given enumeration, .nothing, ⟨some enumeration⟩⟩ := by
  obtain ⟨content⟩ := registry
  cases h
  cases request <;> rfl

/-- An empty registry is filled by a request which makes an enumeration, and gives it. -/
lemma serve_of_product {enumeration : Enumeration S N} {request : Request S N}
    (h : registry.content = none) (hp : request.product? names indexes = some enumeration) :
    registry.serve names indexes request =
      ⟨request.given enumeration, request.effort names indexes, ⟨some enumeration⟩⟩ := by
  obtain ⟨content⟩ := registry
  cases h
  cases request with
  | get => cases hp
  | getOrRegister id definition settings =>
      rcases hr : (register names indexes id definition settings).outcome with rejection | product
      · rw [Request.product?, hr] at hp
        cases hp
      · rw [Request.product?, hr] at hp
        cases hp
        simp only [serve, getOrRegister, hr, Request.given, Request.effort, Except.toOption]
  | getOrInit make =>
      cases hp
      rfl

/-- A registration which fails leaves an empty registry empty, and says why. -/
lemma serve_of_rejection {id : String} {definition : List (S × N)} {settings : List (Setting S N)}
    {rejection : Rejection} (h : registry.content = none)
    (hr : (register names indexes id definition settings).outcome = .error rejection) :
    registry.serve names indexes (.getOrRegister id definition settings) =
      ⟨.registered (.error rejection), (register names indexes id definition settings).taken, .empty⟩ := by
  obtain ⟨content⟩ := registry
  cases h
  simp only [serve, getOrRegister, hr, Except.toOption, empty]

/-- **What one request makes of the content**: it stays, or else it is what the request makes. -/
lemma content_serve (request : Request S N) :
    (registry.serve names indexes request).registry.content =
      registry.content.or (request.product? names indexes) := by
  rcases hc : registry.content with _ | enumeration
  · rw [Option.none_or]
    cases request with
    | get => exact hc
    | getOrRegister id definition settings => simp only [serve, getOrRegister, hc, Request.product?]
    | getOrInit make => simp only [serve, getOrInit, hc, Request.product?]
  · rw [serve_of_content request hc, Option.some_or]

/-! ## Runs -/

/-- **What a run makes of the content**: it stays, or else it is the first that a request makes. -/
lemma content_after (requests : List (Request S N)) :
    (registry.after names indexes requests).content =
      registry.content.or (requests.findSome? (Request.product? names indexes)) := by
  induction requests generalizing registry with
  | nil => exact (Option.or_none).symm
  | cons request rest ih =>
      have hrest := @ih (registry.serve names indexes request).registry
      rw [content_serve, Option.or_assoc] at hrest
      rw [List.findSome?_cons]
      refine hrest.trans (congrArg registry.content.or ?_)
      cases request.product? names indexes <;> rfl

lemma content_after_eq_none {requests : List (Request S N)}
    (h : ∀ request ∈ requests, request.product? names indexes = none) :
    ((empty : Registry S N).after names indexes requests).content = none := by
  rw [content_after, List.findSome?_eq_none_iff.mpr h]
  rfl

/-- Each request of a run visits the registry which the ones before it leave. -/
lemma visits_getElem? (requests : List (Request S N)) (place : Nat) :
    (registry.visits names indexes requests)[place]? =
      requests[place]?.map ((registry.after names indexes (requests.take place)).serve names indexes) := by
  induction requests generalizing registry place with
  | nil => rfl
  | cons request rest ih =>
      cases place with
      | zero => rfl
      | succ place => exact ih place

lemma length_visits (requests : List (Request S N)) :
    (registry.visits names indexes requests).length = requests.length := by
  induction requests generalizing registry with
  | nil => rfl
  | cons request rest ih => exact congrArg (· + 1) ih

/-- The content behind the first request which makes an enumeration, wherever the run goes on. -/
lemma content_after_of_first {requests : List (Request S N)} {first place : Nat} {maker : Request S N}
    {enumeration : Enumeration S N} (hlt : first < place) (hm : requests[first]? = some maker)
    (hnone : ∀ earlier ∈ requests.take first, earlier.product? names indexes = none)
    (hp : maker.product? names indexes = some enumeration) :
    ((empty : Registry S N).after names indexes (requests.take place)).content = some enumeration := by
  have htake : requests.take (first + 1) = requests.take first ++ [maker] := by
    rw [List.take_add_one, hm, Option.toList_some]
  have hfirst : (requests.take (first + 1)).findSome? (Request.product? names indexes) =
      some enumeration := by
    rw [htake, List.findSome?_append, List.findSome?_eq_none_iff.mpr hnone, Option.none_or,
      List.findSome?_singleton, hp]
  rw [content_after, (List.take_prefix_take_left hlt).findSome?_eq_some hfirst]
  rfl

/-- **A run fills a registry once.** -/
structure FilledOnce (names : MemberType S) (indexes : MemberType N) (requests : List (Request S N))
    (visits : List (Visit S N (Answer S N))) : Prop where
  /-- Each request has its visit. -/
  length : visits.length = requests.length
  /-- As long as no request makes an enumeration, there is none to be found. -/
  unfilled : ∀ place : Nat, requests[place]? = some .get →
    (∀ earlier ∈ requests.take place, earlier.product? names indexes = none) →
    visits[place]? = some ⟨.found none, .nothing, .empty⟩
  /-- Until then, a registration which fails does so for its own reason, and the registry stays empty. -/
  refused : ∀ (place : Nat) id definition settings rejection,
    requests[place]? = some (.getOrRegister id definition settings) →
    (∀ earlier ∈ requests.take place, earlier.product? names indexes = none) →
    (register names indexes id definition settings).outcome = .error rejection →
    visits[place]? = some ⟨.registered (.error rejection),
      (register names indexes id definition settings).taken, .empty⟩
  /-- The first request which makes an enumeration is given it, and leaves it in the registry. -/
  filled : ∀ (place : Nat) maker enumeration, requests[place]? = some maker →
    (∀ earlier ∈ requests.take place, earlier.product? names indexes = none) →
    maker.product? names indexes = some enumeration →
    visits[place]? = some ⟨maker.given enumeration, maker.effort names indexes, ⟨some enumeration⟩⟩
  /-- All requests behind it are given the same enumeration, and nothing of them is looked at. -/
  settled : ∀ (first place : Nat) maker request enumeration, first < place →
    requests[first]? = some maker →
    (∀ earlier ∈ requests.take first, earlier.product? names indexes = none) →
    maker.product? names indexes = some enumeration → requests[place]? = some request →
    visits[place]? = some ⟨request.given enumeration, .nothing, ⟨some enumeration⟩⟩

/-- **Every run of requests fills an empty registry once**: with the enumeration of the first request which
makes one.  Before it each request is left to itself, and behind it each request is given this enumeration,
whatever its arguments are. -/
theorem filledOnce_visits (names : MemberType S) (indexes : MemberType N)
    (requests : List (Request S N)) :
    FilledOnce names indexes requests ((empty : Registry S N).visits names indexes requests) where
  length := length_visits requests
  unfilled place h hnone := by
    have hcontent := content_after_eq_none hnone
    rw [visits_getElem?, h, Option.map_some]
    generalize (empty : Registry S N).after names indexes (requests.take place) = before at hcontent
    obtain ⟨content⟩ := before
    cases hcontent
    rfl
  refused place id definition settings rejection h hnone hr := by
    rw [visits_getElem?, h, Option.map_some, serve_of_rejection (content_after_eq_none hnone) hr]
  filled place maker enumeration h hnone hp := by
    rw [visits_getElem?, h, Option.map_some, serve_of_product (content_after_eq_none hnone) hp]
  settled first place maker request enumeration hlt hm hnone hp h := by
    rw [visits_getElem?, h, Option.map_some,
      serve_of_content request (content_after_of_first hlt hm hnone hp)]

end Registry

end EnumTables.Enumeration
