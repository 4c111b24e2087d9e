import Hedwig.Lib.PyDict

set_option relaxedAutoImplicit false
set_option autoImplicit false

/-!
# Calls with keyword arguments

How the arguments of a Python call are bound to the parameters of a function: positional arguments
from left to right, then keywords by name, the rest to `*args` and `**kwargs`.

## Main definitions

* `PyCall.Param` — a parameter, by its name, its kind and whether it has a default.
* `PyCall.Bound` — what the function receives.
* `PyCall.bind` — the binding, `none` for a `TypeError`.

## Main results

* `PyCall.notMem_kwargs_of_bind` — a keyword that names a parameter does not reach `**kwargs`.
* `PyCall.foldlM_bindKeyword` — keywords that name no parameter do, as they are.
* `PyCall.taken_of_foldlM_bindKeyword` — a keyword that names a parameter is bound to it, once.
-/

namespace PyCall

/-- The kinds of parameters. -/
inductive ParamKind
  | positionalOnly | positionalOrKeyword | varPositional | keywordOnly | varKeyword
  deriving DecidableEq, Repr

/-- A parameter of a function. -/
structure Param where
  name : String
  kind : ParamKind
  hasDefault : Bool
  deriving DecidableEq, Repr

/-- The arguments that a function receives: by parameter, and those in `*args` and `**kwargs`. -/
structure Bound (α : Type) where
  arguments : PyDict String α
  args : List α
  kwargs : PyDict String α

variable {α : Type}

/-- Some parameter is of a kind. -/
def hasKind (params : List Param) (kind : ParamKind) : Bool := params.any (·.kind = kind)

/-- A keyword names a parameter that can be passed by keyword. -/
def takesKeyword (params : List Param) (k : String) : Bool :=
  params.any fun p =>
    p.name = k && (p.kind = .positionalOrKeyword || p.kind = .keywordOnly)

/-- The positional arguments, one parameter after the other; the rest goes to `*args`. -/
def bindPositional (varPositional : Bool) :
    List Param → List α → PyDict String α → Option (Bound α)
  | _, [], arguments => some ⟨arguments, [], .empty⟩
  | p :: params, a :: args, arguments =>
    bindPositional varPositional params args (arguments.set p.name a)
  | [], args, arguments => if varPositional then some ⟨arguments, args, .empty⟩ else none

/-- One keyword argument. -/
def bindKeyword (params : List Param) (b : Bound α) (kw : String × α) : Option (Bound α) :=
  if takesKeyword params kw.1 then
    if kw.1 ∈ b.arguments.keys then none
    else some { b with arguments := b.arguments.set kw.1 kw.2 }
  else if hasKind params .varKeyword then
    if kw.1 ∈ b.kwargs.keys then none
    else some { b with kwargs := b.kwargs.set kw.1 kw.2 }
  else none

/-- Every parameter without a default has an argument. -/
def complete (params : List Param) (b : Bound α) : Bool :=
  params.all fun p => p.hasDefault || p.kind = .varPositional || p.kind = .varKeyword ||
    p.name ∈ b.arguments.keys

/-- The arguments that a function with these parameters receives. -/
def bind (params : List Param) (args : List α) (keywords : List (String × α)) :
    Option (Bound α) := do
  let positional := params.filter fun p =>
    p.kind = .positionalOnly || p.kind = .positionalOrKeyword
  let b ← bindPositional (hasKind params .varPositional) positional args .empty
  let b ← keywords.foldlM (bindKeyword params) b
  if complete params b then some b else none

variable {params : List Param} {b b' : Bound α}

/-- No positional argument reaches `**kwargs`. -/
lemma kwargs_bindPositional {varPositional : Bool} {ps : List Param} {args : List α}
    {arguments : PyDict String α} (h : bindPositional varPositional ps args arguments = some b) :
    b.kwargs = .empty := by
  fun_induction bindPositional varPositional ps args arguments with
  | case1 => rw [← Option.some.inj h]
  | case2 _ _ _ _ _ ih => exact ih h
  | case3 => rw [← Option.some.inj h]
  | case4 => cases h

/-- One positional argument binds to the first parameter that takes it, if every other parameter can
do without one. -/
theorem exists_bind_singleton_iff (hvar : hasKind params .varPositional = false) (a : α) :
    (∃ b, bind params [a] [] = some b) ↔
      ∃ p rest, (params.filter fun q =>
          q.kind = .positionalOnly || q.kind = .positionalOrKeyword) = p :: rest ∧
        ∀ q ∈ params, q.hasDefault = true ∨ q.kind = .varPositional ∨ q.kind = .varKeyword ∨
          q.name = p.name := by
  rw [bind, hvar]
  cases hpositional : params.filter fun q =>
      q.kind = .positionalOnly || q.kind = .positionalOrKeyword with
  | nil => simp [bindPositional]
  | cons p rest =>
    have hbound : bindPositional false (p :: rest) [a] (.empty : PyDict String α) =
        some ⟨PyDict.empty.set p.name a, [], .empty⟩ := by
      rw [bindPositional, bindPositional]
    have hcomplete : complete params ⟨PyDict.empty.set p.name a, [], .empty⟩ = true ↔
        ∀ q ∈ params, q.hasDefault = true ∨ q.kind = .varPositional ∨ q.kind = .varKeyword ∨
          q.name = p.name := by
      simp [complete, PyDict.mem_keys_set, or_assoc]
    simp [hbound, ← hcomplete]

/-- A keyword that names a parameter does not add to `**kwargs`. -/
lemma notMem_kwargs_bindKeyword {kw : String × α} {k : String}
    (hk : takesKeyword params k = true) (hb : k ∉ b.kwargs.keys)
    (h : bindKeyword params b kw = some b') : k ∉ b'.kwargs.keys := by
  unfold bindKeyword at h
  split_ifs at h with htakes hmem hvar hmem'
  · rw [← Option.some.inj h]
    exact hb
  · rw [← Option.some.inj h]
    intro hset
    rcases PyDict.mem_keys_set.mp hset with hold | rfl
    · exact hb hold
    · exact htakes hk

/-- A keyword that names a parameter does not reach `**kwargs`. -/
theorem notMem_kwargs_of_bind {args : List α} {keywords : List (String × α)} {k : String}
    (hk : takesKeyword params k = true) (h : bind params args keywords = some b) :
    k ∉ b.kwargs.keys := by
  have hfold : ∀ (keywords : List (String × α)) (b b' : Bound α), k ∉ b.kwargs.keys →
      keywords.foldlM (bindKeyword params) b = some b' → k ∉ b'.kwargs.keys := by
    intro keywords
    induction keywords with
    | nil =>
      rintro b b' hb ⟨⟩
      exact hb
    | cons kw rest ih =>
      intro b b' hb h
      rw [List.foldlM_cons, Option.bind_eq_bind, Option.bind_eq_some_iff] at h
      obtain ⟨b₁, hkw, hrest⟩ := h
      exact ih b₁ b' (notMem_kwargs_bindKeyword hk hb hkw) hrest
  simp only [bind, Option.bind_eq_bind, Option.bind_eq_some_iff] at h
  obtain ⟨b₁, hpositional, b₂, hkeywords, hcomplete⟩ := h
  split_ifs at hcomplete
  obtain rfl := Option.some.inj hcomplete
  refine hfold keywords b₁ b₂ ?_ hkeywords
  rw [kwargs_bindPositional hpositional]
  exact List.not_mem_nil

/-- Keywords that name no parameter go to `**kwargs` as they are; by induction on the keywords. -/
theorem foldlM_bindKeyword (hvar : hasKind params .varKeyword = true)
    {keywords : List (String × α)} (hnodup : (keywords.map Prod.fst).Nodup)
    (hfree : ∀ kw ∈ keywords, takesKeyword params kw.1 = false) (b : Bound α)
    (hnew : ∀ k ∈ keywords.map Prod.fst, k ∉ b.kwargs.keys) :
    ∃ b', keywords.foldlM (bindKeyword params) b = some b' ∧ b'.arguments = b.arguments ∧
      b'.args = b.args ∧ b'.kwargs.items = b.kwargs.items ++ keywords := by
  induction keywords generalizing b with
  | nil => exact ⟨b, rfl, rfl, rfl, (List.append_nil _).symm⟩
  | cons kw rest ih =>
    rw [List.map_cons, List.nodup_cons] at hnodup
    have hfresh : kw.1 ∉ b.kwargs.keys := hnew kw.1 (by simp)
    have hstep : bindKeyword params b kw =
        some { b with kwargs := b.kwargs.set kw.1 kw.2 } := by
      rw [bindKeyword, hfree kw List.mem_cons_self, if_neg Bool.false_ne_true, if_pos hvar,
        if_neg hfresh]
    obtain ⟨b', hrest, harguments, hargs, hkwargs⟩ := ih hnodup.2
      (fun kw' hkw' => hfree kw' (List.mem_cons_of_mem _ hkw'))
      { b with kwargs := b.kwargs.set kw.1 kw.2 } (by
        intro k hk hmem
        rcases PyDict.mem_keys_set.mp hmem with hold | rfl
        · exact hnew k (List.mem_cons_of_mem _ hk) hold
        · exact hnodup.1 hk)
    refine ⟨b', ?_, harguments, hargs, ?_⟩
    · rw [List.foldlM_cons, hstep]
      exact hrest
    · rw [hkwargs, PyDict.items_set hfresh, List.append_assoc]
      rfl

/-- A keyword that names a parameter had no argument before, and has one after; by induction on the
keywords. -/
theorem taken_of_foldlM_bindKeyword {keywords : List (String × α)} {b b' : Bound α}
    (h : keywords.foldlM (bindKeyword params) b = some b') :
    (∀ k ∈ b.arguments.keys, k ∈ b'.arguments.keys) ∧
      ∀ kw ∈ keywords, takesKeyword params kw.1 = true →
        kw.1 ∉ b.arguments.keys ∧ kw.1 ∈ b'.arguments.keys := by
  induction keywords generalizing b with
  | nil =>
    obtain rfl := Option.some.inj h
    exact ⟨fun _ hk => hk, fun _ hkw => absurd hkw List.not_mem_nil⟩
  | cons kw rest ih =>
    rw [List.foldlM_cons, Option.bind_eq_bind, Option.bind_eq_some_iff] at h
    obtain ⟨b₁, hkw, hrest⟩ := h
    obtain ⟨hkept, htaken⟩ := ih hrest
    have hstep : (∀ k ∈ b.arguments.keys, k ∈ b₁.arguments.keys) ∧
        (takesKeyword params kw.1 = true →
          kw.1 ∉ b.arguments.keys ∧ kw.1 ∈ b₁.arguments.keys) := by
      unfold bindKeyword at hkw
      split_ifs at hkw with htakes hmem hvar hmem'
      · rw [← Option.some.inj hkw]
        exact ⟨fun k hk => PyDict.mem_keys_set.mpr (.inl hk),
          fun _ => ⟨hmem, PyDict.mem_keys_set.mpr (.inr rfl)⟩⟩
      · rw [← Option.some.inj hkw]
        exact ⟨fun _ hk => hk, fun htakes' => absurd htakes' htakes⟩
    refine ⟨fun k hk => hkept k (hstep.1 k hk), fun kw' hkw' htakes => ?_⟩
    rcases List.mem_cons.mp hkw' with rfl | hmem
    · exact ⟨(hstep.2 htakes).1, hkept _ (hstep.2 htakes).2⟩
    · exact ⟨fun hk => (htaken kw' hmem htakes).1 (hstep.1 _ hk), (htaken kw' hmem htakes).2⟩

end PyCall
