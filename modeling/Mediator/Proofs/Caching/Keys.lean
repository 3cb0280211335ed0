import Mediator.Proofs.Caching.Soundness
import Mediator.Proofs.Message.TypeNames

/-!
# Which requests share an entry

The key of an entry is the name of a type and a request's own key, with a separator between them
that either may contain. So the keys of two requests agree in one more case than they should
(`storeKey_eq_iff`): one type lies in the scope of the other, and the rest of its path is where the
other request's own key begins. A request may be answered with the response to another exactly where
their keys agree; there is nothing else that it is answered with (`Ledger.Balances.answer_origin`).
-/

namespace Mediator

namespace TypeName

/-- The name of a type without arguments: identifiers with separators between them. -/
inductive IsPath : String → Prop
  | identifier {s : String} (h : IsIdentifier s) : IsPath s
  | inside {scope s : String} (hscope : IsPath scope) (h : IsIdentifier s) :
      IsPath (scope ++ "::" ++ s)

theorem IsPath.not_colon_last {s : String} (h : IsPath s) (cs : List Char) :
    s.toList ≠ cs ++ [':'] := by
  have hidentifier : ∀ s, IsIdentifier s → ∀ cs, s.toList ≠ cs ++ [':'] := by
    intro s hs cs heq
    exact hs.colon_notMem (by simp [heq])
  cases h with
  | identifier h => exact hidentifier s h cs
  | @inside scope s hscope h =>
    intro heq
    obtain ⟨c, rest, hs, -, -⟩ := id h
    obtain ⟨front, last, hlast⟩ : ∃ front last, s.toList = front ++ [last] :=
      ⟨_, _, (List.dropLast_append_getLast (by simp [hs])).symm⟩
    rw [String.toList_append, hlast, ← List.append_assoc] at heq
    obtain rfl : last = ':' := by simpa using (List.append_inj' heq rfl).2
    exact hidentifier s h front hlast

end TypeName

open Intercept Mediator.TypeName

-- ---------------------------------------------------------------------------
-- Keys
-- ---------------------------------------------------------------------------

/-- Requests of these types, with these keys of their own, share one entry. -/
inductive SharesEntry (t : RequestType) (j : String) (u : RequestType) (k : String) : Prop
  | same (hname : t.name = u.name) (hkey : j = k)
  /-- The second type lies in the scope of the first. -/
  | inner (path : String) (hname : u.name = t.name ++ "::" ++ path) (hkey : j = path ++ "::" ++ k)
  /-- The first type lies in the scope of the second. -/
  | outer (path : String) (hname : t.name = u.name ++ "::" ++ path) (hkey : k = path ++ "::" ++ j)

theorem SharesEntry.symm {t u : RequestType} {j k : String} (h : SharesEntry t j u k) :
    SharesEntry u k t j := by
  cases h with
  | same hname hkey => exact .same hname.symm hkey.symm
  | inner path hname hkey => exact .outer path hname hkey
  | outer path hname hkey => exact .inner path hname hkey

theorem SharesEntry.of_append {t u : RequestType} {j k : String} {cs : List Char}
    (hu : IsPath u.name) (hname : u.name.toList = t.name.toList ++ cs)
    (hkey : "::".toList ++ j.toList = cs ++ ("::".toList ++ k.toList)) : SharesEntry t j u k := by
  match cs, hname, hkey with
  | [], hname, hkey =>
    -- The names are the same.
    refine .same (String.toList_inj.mp ?_) (String.toList_inj.mp ?_)
    · simpa using hname.symm
    · simpa using hkey
  | [c], hname, hkey =>
    -- Half a separator cannot be the end of a name.
    obtain ⟨rfl, -⟩ : ':' = c ∧ _ := List.cons.inj hkey
    exact absurd hname (hu.not_colon_last _)
  | c :: d :: cs, hname, hkey =>
    obtain ⟨rfl, rfl, hkey⟩ : ':' = c ∧ ':' = d ∧
        j.toList = cs ++ ("::".toList ++ k.toList) := by simpa using hkey
    refine .inner (String.ofList cs) (String.toList_inj.mp ?_) (String.toList_inj.mp ?_)
    · simpa using hname
    · simpa using hkey

theorem storeKey_eq_iff {t u : RequestType} {j k : String} (ht : IsPath t.name)
    (hu : IsPath u.name) : storeKey t j = storeKey u k ↔ SharesEntry t j u k := by
  constructor
  · intro h
    have h : t.name.toList ++ ("::".toList ++ j.toList) =
        u.name.toList ++ ("::".toList ++ k.toList) := by
      simpa [storeKey] using congrArg String.toList h
    obtain ⟨cs, hname, hkey⟩ | ⟨cs, hname, hkey⟩ := List.append_eq_append_iff.mp h
    · exact .of_append hu hname hkey
    · exact (SharesEntry.of_append ht hname hkey).symm
  · rintro (⟨hname, rfl⟩ | ⟨path, hname, rfl⟩ | ⟨path, hname, rfl⟩)
    · rw [storeKey, storeKey, hname]
    · simp [storeKey, hname, String.append_assoc]
    · simp [storeKey, hname, String.append_assoc]

-- ---------------------------------------------------------------------------
-- Answers
-- ---------------------------------------------------------------------------

theorem Ledger.Balances.answer_origin {V : Visit → Prop} {g : Ledger} {w : World}
    (h : Ledger.Balances V g w) (hV : ∀ v, V v → IsPath v.ctx.request.type.name) {v : Visit}
    {x : Value} (hv : IsPath v.ctx.request.type.name) (hanswer : v.answer? w = some x) :
    ∃ u j k, V u ∧ u.inner.Returned (Ledger.passed (g, w)) (.ok (.success x)) ∧
      v.ctx.request.cacheKey = some j ∧ u.ctx.request.cacheKey = some k ∧
      SharesEntry v.ctx.request.type j u.ctx.request.type k := by
  obtain ⟨key, hkey, hlive, -⟩ := Visit.answer?_eq_some_iff.mp hanswer
  rw [h.live?_eq, Option.map_eq_some_iff] at hlive
  obtain ⟨d, hd, rfl⟩ := hlive
  obtain ⟨hlatest, -⟩ := Option.filter_eq_some_iff.mp hd
  have hgenuine := h.genuine d (List.mem_of_find?_eq_some hlatest)
  obtain rfl : d.key = key := by simpa using List.find?_some hlatest
  obtain ⟨j, hj, hjkey⟩ := Option.map_eq_some_iff.mp hkey
  obtain ⟨k, hk, hkkey⟩ := Option.map_eq_some_iff.mp hgenuine.key
  exact ⟨d.visit, j, k, hgenuine.visited, hgenuine.returned, hj, hk,
    (storeKey_eq_iff hv (hV _ hgenuine.visited)).mp (hjkey.trans hkkey.symm)⟩

section
variable {α ι : Type} [DecidableEq ι] {V : Visit → Prop} {programs : ι → Action α}
  {others : World → World → Prop} {w₀ : World} {c : Crew ι World α}

/-- The keys of two requests agree exactly if the requests share an entry; and whatever programs
that use the store through caching nodes do from an empty store on, one by one or interleaved, a
request is only ever answered with the response that was computed for one that shares its entry. -/
theorem Crew.Reaches.answered_by_sharers (hothers : ∀ w w', others w w' → w.Quiet w')
    (hprograms : ∀ i, Cached V (programs i)) (hV : ∀ v, V v → IsPath v.ctx.request.type.name)
    (hempty : w₀.store = .empty) (h : Crew.Reaches others (.start programs w₀) c) :
    (∀ (t u : RequestType) (j k : String), IsPath t.name → IsPath u.name →
      (storeKey t j = storeKey u k ↔ SharesEntry t j u k)) ∧
    ∀ before w after, c.passed = before ++ w :: after →
      ∀ (v : Visit) (x : Value), IsPath v.ctx.request.type.name → v.answer? w = some x →
        ∃ u j k, V u ∧ u.inner.Returned (before ++ [w]) (.ok (.success x)) ∧
          v.ctx.request.cacheKey = some j ∧ u.ctx.request.cacheKey = some k ∧
          SharesEntry v.ctx.request.type j u.ctx.request.type k := by
  refine ⟨fun t u j k ht hu => storeKey_eq_iff ht hu, fun before w after hpassed v x hv hx => ?_⟩
  obtain ⟨deposits, -, hbalances⟩ := h.balances_through hothers hprograms hempty hpassed
  exact hbalances.answer_origin hV hv hx

end

/-- The response to one order is the answer to the request of a line. -/
theorem Crew.line_answered_with_order :
    let visit (id : Nat) (name own : String) (n : Int) : Visit :=
      ⟨.ofSecs 300,
        ⟨{ Request.plain ⟨⟨id⟩, name, .full, .int⟩ .null with cacheKey := some own }, default⟩,
        .done (.ok (.success (.int n)))⟩
    let order := visit 0 "shop::Order" "Line::7" 1
    let line := visit 1 "shop::Order::Line" "7" 2
    let c := (start (fun _ : Unit => order.program) .empty).turn () order.program
    line.answer? c.state = some (.int 1) ∧
      ∃ j k, line.ctx.request.cacheKey = some j ∧ order.ctx.request.cacheKey = some k ∧
        SharesEntry line.ctx.request.type j order.ctx.request.type k := by
  intro visit order line c
  have hshop : IsPath "shop" := .identifier ⟨'s', ['h', 'o', 'p'], rfl, rfl, rfl⟩
  have horder : IsPath "shop::Order" := by
    show IsPath ("shop" ++ "::" ++ "Order")
    exact .inside hshop ⟨'O', ['r', 'd', 'e', 'r'], rfl, rfl, rfl⟩
  have hline : IsPath "shop::Order::Line" := by
    show IsPath ("shop::Order" ++ "::" ++ "Line")
    exact .inside horder ⟨'L', ['i', 'n', 'e'], rfl, rfl, rfl⟩
  have hc : Reaches World.Quiet (start (fun _ : Unit => order.program) .empty) c :=
    .tail .refl (.turn rfl rfl)
  have hanswer : line.answer? c.state = some (.int 1) := by decide +kernel
  obtain ⟨-, hanswered⟩ := hc.answered_by_sharers (V := (· = order)) (fun _ _ h => h)
    (fun _ => .visit rfl (.done _)) (fun v hv => hv ▸ horder) rfl
  obtain ⟨u, j, k, rfl, -, hj, hk, hshares⟩ :=
    hanswered c.past c.state [] rfl line (.int 1) hline hanswer
  exact ⟨hanswer, j, k, hj, hk, hshares⟩

/-- Types with different names whose requests mix: a line is asked for and an order comes back. -/
theorem Intercept.storeKey_mixes :
    let visit (id : Nat) (name own : String) (n : Int) : Visit :=
      ⟨.ofSecs 300,
        ⟨{ Request.plain ⟨⟨id⟩, name, .full, .int⟩ .null with cacheKey := some own }, default⟩,
        .done (.ok (.success (.int n)))⟩
    let order := visit 0 "shop::Order" "Line::7" 1
    let line := visit 1 "shop::Order::Line" "7" 2
    order.ctx.request.type.name ≠ line.ctx.request.type.name ∧
      storeKey order.ctx.request.type "Line::7" = storeKey line.ctx.request.type "7" ∧
      ((order.program.bind fun _ => line.program).along .empty []).progress =
        .returned (.ok (.success (.int 1))) :=
  ⟨by decide, by decide +kernel, rfl⟩

end Mediator
