import Mediator.Proofs.Dispatch.Endings
import Mediator.Proofs.Intercept.Observers
import Mediator.Text.Identifier

/-!
# What types are called

The full name of a type is a path of segments, and any of them may have brackets: for arguments, or
around the implementation whose method the type is declared in. The short name is what the first
segment with brackets begins with (`FullName.short_text`). So it is the type's own identifier if no
segment before that has brackets, but for a type that is declared in a method it may be that of
another type, or nothing. Resources, failures and records call a type by its short name
(`FullName.called_by_cut`).
-/

namespace Mediator.TypeName

-- ---------------------------------------------------------------------------
-- Full names
-- ---------------------------------------------------------------------------

def IsIdentifier (s : String) : Prop :=
  ∃ c cs, s.toList = c :: cs ∧ Text.isIdentifierStart c = true ∧
    cs.all Text.isIdentifierRest = true

theorem IsIdentifier.notMem {s : String} {d : Char} (h : IsIdentifier s)
    (hd : Text.isIdentifierRest d = false) : d ∉ s.toList := by
  obtain ⟨c, cs, hs, hc, hcs⟩ := h
  rw [hs, List.mem_cons, not_or]
  constructor
  · rintro rfl
    rw [Text.isIdentifierRest, hc] at hd
    cases hd
  · intro hmem
    rw [List.all_eq_true.mp hcs d hmem] at hd
    cases hd

theorem IsIdentifier.colon_notMem {s : String} (h : IsIdentifier s) : ':' ∉ s.toList :=
  h.notMem (by decide +kernel)

theorem IsIdentifier.bracket_notMem {s : String} (h : IsIdentifier s) : '<' ∉ s.toList :=
  h.notMem (by decide +kernel)

theorem IsIdentifier.ne_empty {s : String} (h : IsIdentifier s) : s ≠ "" := by
  rintro rfl
  obtain ⟨c, cs, hs, -⟩ := h
  cases hs

/-- A segment such as `orders`, `Basket<i64>`, or `<shop::Order as shop::Priced>`, which has nothing
before its brackets. What is between them may be any text, so also the names of any types. -/
structure Segment where
  head : String
  brackets : Option String
  plain : '<' ∉ head.toList ∧ ':' ∉ head.toList

namespace Segment

def text (s : Segment) : String :=
  match s.brackets with
  | some inner => s.head ++ "<" ++ inner ++ ">"
  | none => s.head

def isBracketed (s : Segment) : Bool := s.brackets.isSome

end Segment

/-- The full name of a declared type: in which scope it is declared, its identifier, and its
arguments, if it has any. -/
structure FullName where
  scope : List Segment
  identifier : String
  arguments : Option String
  isIdentifier : IsIdentifier identifier

namespace FullName

def own (n : FullName) : Segment :=
  ⟨n.identifier, n.arguments, n.isIdentifier.bracket_notMem, n.isIdentifier.colon_notMem⟩

def text (n : FullName) : String :=
  n.scope.foldr (fun s rest => s.text ++ "::" ++ rest) n.own.text

/-- The first segment with brackets, and the type's own if there is none before it. -/
def cut (n : FullName) : Segment := (n.scope.find? Segment.isBracketed).getD n.own

end FullName

-- ---------------------------------------------------------------------------
-- Short names
-- ---------------------------------------------------------------------------

variable {cs ds : List Char}

theorem withoutArguments_append (h : '<' ∉ cs) :
    withoutArguments (cs ++ ds) = cs ++ withoutArguments ds :=
  List.takeWhile_append_of_pos fun c hc => by
    simpa using ne_of_mem_of_not_mem hc h

theorem beforeSeparator_append (h : ':' ∉ cs) :
    beforeSeparator (cs ++ ds) = cs ++ beforeSeparator ds := by
  induction cs with
  | nil => rfl
  | cons c cs ih =>
    rw [List.mem_cons, not_or] at h
    rw [List.cons_append, beforeSeparator, ih h.2, List.cons_append]
    rintro _ rfl
    exact absurd rfl h.1

theorem lastSegment_append (h : ':' ∉ ds) : lastSegment (cs ++ ds) = lastSegment cs ++ ds := by
  rw [← List.mem_reverse] at h
  rw [lastSegment, List.reverse_append, beforeSeparator_append h, List.reverse_append,
    List.reverse_reverse, lastSegment]

theorem lastSegment_separator (cs : List Char) : lastSegment (cs ++ "::".toList) = [] := by
  simp [lastSegment, beforeSeparator]

theorem Segment.withoutArguments_of_isBracketed {s : Segment} (h : s.isBracketed = true)
    (ds : List Char) : withoutArguments (s.text.toList ++ ds) = s.head.toList := by
  obtain ⟨inner, hinner⟩ := Option.isSome_iff_exists.mp h
  have htext : s.text.toList ++ ds = s.head.toList ++ '<' :: (inner.toList ++ '>' :: ds) := by
    simp [text, hinner]
  rw [htext, withoutArguments_append s.plain.1]
  exact List.append_nil _

theorem Segment.text_of_not_isBracketed {s : Segment} (h : s.isBracketed = false) :
    s.text = s.head := by
  rw [isBracketed, Option.isSome_eq_false_iff, Option.isNone_iff_eq_none] at h
  rw [text, h]

theorem Segment.withoutArguments_text (s : Segment) :
    withoutArguments s.text.toList = s.head.toList := by
  cases h : s.isBracketed with
  | true => simpa using withoutArguments_of_isBracketed h []
  | false =>
    rw [text_of_not_isBracketed h, ← List.append_nil s.head.toList,
      withoutArguments_append s.plain.1]
    rfl

/-- Behind nothing, or behind other segments and a separator, a path is known by what its first
segment with brackets begins with. -/
theorem lastSegment_path (scope : List Segment) (own : Segment) (hcs : '<' ∉ cs)
    (h : lastSegment cs = []) : lastSegment (withoutArguments
      (cs ++ (scope.foldr (fun s rest => s.text ++ "::" ++ rest) own.text).toList)) =
      ((scope.find? Segment.isBracketed).getD own).head.toList := by
  -- A segment without brackets goes to what stands before the others, and the first one with
  -- brackets ends the text in which the last separator is looked for.
  induction scope generalizing cs with
  | nil =>
    rw [List.foldr_nil, withoutArguments_append hcs, own.withoutArguments_text,
      lastSegment_append own.plain.2, h]
    rfl
  | cons s scope ih =>
    cases hs : s.isBracketed with
    | true =>
      rw [List.foldr_cons, String.append_assoc, String.toList_append, withoutArguments_append hcs,
        Segment.withoutArguments_of_isBracketed hs, List.find?_cons_of_pos hs,
        lastSegment_append s.plain.2, h]
      rfl
    | false =>
      have hbefore : '<' ∉ cs ++ s.head.toList ++ "::".toList := by
        simp [hcs, s.plain.1]
      rw [List.foldr_cons, Segment.text_of_not_isBracketed hs, String.toList_append,
        String.toList_append, ← List.append_assoc, ← List.append_assoc,
        List.find?_cons_of_neg (by simp [hs])]
      exact ih hbefore (lastSegment_separator _)

namespace FullName

theorem short_text (n : FullName) : short n.text = n.cut.head := by
  have h := lastSegment_path n.scope n.own List.not_mem_nil rfl
  rw [short, text, ← List.nil_append (String.toList _), h, String.ofList_toList]
  rfl

theorem cut_head_eq_identifier_iff (n : FullName) : n.cut.head = n.identifier ↔
    ∀ s ∈ n.scope.find? Segment.isBracketed, s.head = n.identifier := by
  cases h : n.scope.find? Segment.isBracketed with
  | none => simp [cut, h, own]
  | some s => simp [cut, h]

theorem cut_head_eq_empty_iff (n : FullName) : n.cut.head = "" ↔
    ∃ s ∈ n.scope.find? Segment.isBracketed, s.head = "" := by
  cases h : n.scope.find? Segment.isBracketed with
  | none => simp [cut, h, own, n.isIdentifier.ne_empty]
  | some s => simp [cut, h]

/-- The short name of a type is its identifier exactly if the first segment before its own that has
brackets, if there is one, begins with the same identifier; it is empty exactly if that segment
begins with its brackets. The type is a resource by this name, and dispatches and audit records call
its requests by it. -/
theorem called_by_cut (wait : (World → Bool) → Scheduler World → Scheduler World) (n : FullName)
    (request : Request) (hname : request.type.name = n.text) :
    (short n.text = n.identifier ↔
      ∀ s ∈ n.scope.find? Segment.isBracketed, s.head = n.identifier) ∧
    (short n.text = "" ↔ ∃ s ∈ n.scope.find? Segment.isBracketed, s.head = "") ∧
    Resource.ofType request.type.name = ⟨n.cut.head, none⟩ ∧
    (∀ (d : Dispatcher) (op : Operation) (q : Scheduler World),
      let ctx := Dispatcher.context request op
      let result := ((d.dispatchWith request op).run wait q).1
      (d.provider.resolve request.type = none →
        result = .returned (.ok (.failed (.noHandler n.cut.head)))) ∧
      ∀ handler e, d.provider.resolve request.type = some handler →
        ((d.chain.run ctx handler).run wait (d.planned ctx q)).1 = .returned (.error e) →
        e.fatalKind? = none →
        result = .returned (.ok (.failed (.handler n.cut.head e)))) ∧
    ∀ (sink : AuditSink) (op : Operation) (rest : Action Reply) (reply : Reply) w ws t ts l,
      ((Intercept.audit sink).intercept ⟨request, op⟩ rest).along w ws =
          ⟨.returned reply, t, ts, l⟩ ↔
        ∃ w' ws' l₁ l₂, rest.along w ws = ⟨.returned reply, w', ws', l₁⟩ ∧
          (sink.record op ⟨n.cut.head, op.correlation, op.user.id, reply.status⟩).along w' ws' =
            ⟨.returned (), t, ts, l₂⟩ ∧ l = l₁ ++ l₂ := by
  have hcalled : request.name = n.cut.head := by
    rw [Request.name, RequestType.shortName, hname, short_text]
  refine ⟨?_, ?_, ?_, fun d op q => ⟨fun h => ?_, fun handler e h hending he => ?_⟩,
    fun sink op rest reply w ws t ts l => ?_⟩
  · rw [short_text, cut_head_eq_identifier_iff]
  · rw [short_text, cut_head_eq_empty_iff]
  · rw [Resource.ofType, hname, short_text]
  · rw [Dispatcher.dispatchWith_none wait h, hcalled]
  · rw [Dispatcher.dispatchWith_ending wait h, hending, hcalled]
    simp [Dispatcher.conclude, he]
  · rw [← hcalled]
    exact Intercept.audit_returned_iff

/-- A report on baskets that nobody makes, and one that could not be made. -/
theorem report_called_by_identifier :
    let report : FullName :=
      ⟨[⟨"shop", none, by decide⟩, ⟨"\x7b\x7bclosure\x7d\x7d", none, by decide⟩], "Report",
        some "fn(shop::Line) -> shop::Basket<i64>",
        ⟨'R', ['e', 'p', 'o', 'r', 't'], rfl, rfl, rfl⟩⟩
    let request := Request.plain ⟨⟨0⟩, report.text, .full, .int⟩ .null
    let dispatch (provider : Provider) :=
      (((⟨provider, [], .development⟩ : Dispatcher).dispatchWith request default).run
        Scheduler.alone (.start .empty)).1
    let handler : Handler := fun _ _ => .done (.error (.message "no paper"))
    short report.text = "Report" ∧ request.resource = ⟨"Report", none⟩ ∧
      dispatch ⟨fun _ => none, fun _ => []⟩ =
        .returned (.ok (.failed (.noHandler "Report"))) ∧
      dispatch ⟨fun _ => some handler, fun _ => []⟩ =
        .returned (.ok (.failed (.handler "Report" (.message "no paper")))) ∧
      ((Intercept.audit .recording).intercept ⟨request, default⟩ (handler request default)).along
          .empty [] =
        ⟨.returned (.error (.message "no paper")), { World.empty with
          audits := [⟨"Report", Operation.correlation default, none, .fault⟩] }, [], []⟩ := by
  intro report request dispatch handler
  obtain ⟨hidentifier, -, hresource, hdispatch, haudit⟩ :=
    called_by_cut Scheduler.alone report request rfl
  refine ⟨hidentifier.mpr ?_, hresource, (hdispatch ⟨_, _, _⟩ default _).1 rfl,
    (hdispatch ⟨_, _, _⟩ default _).2 handler _ rfl rfl rfl, ?_⟩
  · simp [report, Segment.isBracketed]
  · exact (haudit _ _ _ _ _ _ _ _ _).mpr ⟨.empty, [], [], [], rfl, rfl, rfl⟩

/-- Two types that are declared in methods: one is called by nothing, and one by the name of the type
whose method it is. -/
theorem quote_not_called_by_identifier :
    let quote (scope : List Segment) : FullName :=
      ⟨scope ++ [⟨"price", none, by decide⟩], "Quote", none,
        ⟨'Q', ['u', 'o', 't', 'e'], rfl, rfl, rfl⟩⟩
    let ordered := quote [⟨"", some "shop::Order as shop::Priced", by decide⟩]
    let filled := quote [⟨"shop", none, by decide⟩, ⟨"Basket", some "T", by decide⟩]
    ordered.text = "<shop::Order as shop::Priced>::price::Quote" ∧ short ordered.text = "" ∧
      filled.text = "shop::Basket<T>::price::Quote" ∧ short filled.text = "Basket" := by
  decide +kernel

end FullName

end Mediator.TypeName
