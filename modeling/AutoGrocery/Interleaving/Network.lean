import AutoGrocery.Interleaving.Paths
import AutoGrocery.Interleaving.Rely

/-!
A request to a server over a network that may lose it. A lost request is never served,
and the response to a request that was served may be lost too. The one who asked cannot
tell the two apart.
-/

namespace Interleaving

variable {Op : Type} {Ans : Op → Type} {α σ : Type}

namespace Prog

/-- Send a request, let the server run to its end and wait for its response. A reply that
is no answer, such as a closed connection, counts as lost. -/
def roundTrip (send receive : Prog Ans Bool) (answered : α → Bool) (server : Prog Ans α) :
    Prog Ans (Option α) :=
  send >>= fun
    | false => .ret none
    | true => server >>= fun reply =>
        receive >>= fun
          | false => .ret none
          | true => .ret (if answered reply then some reply else none)

section

variable {send receive : Prog Ans Bool} {answered : α → Bool} {server : Prog Ans α}

/-- The request gets lost, or the server runs to its end and the response may get lost. -/
theorem path_roundTrip {trace : List (Event Ans)} {answer : Option α}
    (hpath : (roundTrip send receive answered server).Path trace answer) :
    (send.Path trace false ∧ answer = none) ∨
      ∃ sending served receiving reply returned, trace = sending ++ (served ++ receiving) ∧
        send.Path sending true ∧ server.Path served reply ∧ receive.Path receiving returned ∧
        answer = if returned = true ∧ answered reply = true then some reply else none := by
  obtain ⟨sending, rest, reached, rfl, hsend, hrest⟩ := path_bind.mp hpath
  cases reached with
  | false =>
      obtain ⟨rfl, rfl⟩ := path_ret.mp hrest
      exact Or.inl ⟨by rwa [List.append_nil], rfl⟩
  | true =>
      obtain ⟨served, late, reply, rfl, hserved, hlate⟩ := path_bind.mp hrest
      obtain ⟨receiving, last, returned, rfl, hreceive, hlast⟩ := path_bind.mp hlate
      refine Or.inr ⟨sending, served, receiving, reply, returned, ?_⟩
      cases returned with
      | false =>
          obtain ⟨rfl, rfl⟩ := path_ret.mp hlast
          exact ⟨by rw [List.append_nil], hsend, hserved, hreceive, rfl⟩
      | true =>
          obtain ⟨rfl, rfl⟩ := path_ret.mp hlast
          exact ⟨by rw [List.append_nil], hsend, hserved, hreceive, by simp⟩

/-- What the server promises of its reply holds of a response that comes back. -/
theorem Keeps.roundTrip {rules : Rules Ans σ} {promised : σ → α → Prop} {state : σ}
    (hserver : server.Keeps rules promised state)
    (hstable : ∀ {state state' reply}, promised state reply → rules.later state state' → promised state' reply)
    (hsend : ∀ state, send.Keeps rules (fun _ _ => True) state)
    (hreceive : ∀ state, receive.Keeps rules (fun _ _ => True) state) :
    (roundTrip send receive answered server).Keeps rules
      (fun state answer => ∀ reply, answer = some reply → promised state reply) state := by
  refine (hsend state).bind fun state' reached hlater _ => ?_
  cases reached with
  | false => exact .ret nofun
  | true =>
      refine (hserver.later hlater hstable).bind fun served reply _ hreply => ?_
      refine (hreceive served).bind fun last returned hlast _ => ?_
      cases returned with
      | false => exact .ret nofun
      | true =>
          refine .ret fun other hother => ?_
          split at hother
          · cases hother
            exact hstable hreply hlast
          · cases hother

end

end Prog

end Interleaving
