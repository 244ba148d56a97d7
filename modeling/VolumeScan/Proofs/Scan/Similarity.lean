/-
VolumeScan.Proofs.Scan.Similarity — reading the same volume in two environments.

Two environments are similar for a volume (`Environment.Similar`) if they grant the same requests,
with blocks of one size, and read the same bytes from it. Where the blocks are, what else is in them
and what the environments say about other volumes is left open. The states of the environments are
related together with the blocks that are out: a buffer is given back when its body is over, so they
form a stack, and the relation that held before a buffer was granted holds again behind it.

What only reads has the same result in similar environments, whatever the registries are
(`Action.Similar`). Every environment is similar to itself, so the registry has no influence on what
is read (`Environment.similar_self`).
-/
import VolumeScan.Proofs.Scan.Rules

namespace VolumeScan

/-- Two environments grant the same requests, and read the same bytes from `volume` and `volume'`,
as long as `R` relates the blocks that are out, the newest ones first, and their states. Blocks that
are granted for the same request are `same`. -/
structure Environment.Similar {σ τ : Type} (same : Grant → Grant → Prop)
    (R : List (Grant × Grant) → σ → τ → Prop) (volume volume' : Volume) (env : Environment σ)
    (env' : Environment τ) : Prop where
  size_eq : ∀ {grant grant'}, same grant grant' → grant'.size = grant.size
  allocate : ∀ {out s t}, R out s t → ∀ size,
    ((env.scratch.allocate s size).1 = none ∧ (env'.scratch.allocate t size).1 = none
        ∧ R out (env.scratch.allocate s size).2 (env'.scratch.allocate t size).2)
      ∨ ∃ grant grant', (env.scratch.allocate s size).1 = some grant
        ∧ (env'.scratch.allocate t size).1 = some grant' ∧ same grant grant'
        ∧ R ((grant, grant') :: out) (env.scratch.allocate s size).2
          (env'.scratch.allocate t size).2
  release : ∀ {out grant grant' s t}, R ((grant, grant') :: out) s t →
    R out (env.scratch.release s grant).2 (env'.scratch.release t grant').2
  clear : ∀ {out grant grant' s t}, same grant grant' → R out s t →
    R out (env.scratch.clear s grant) (env'.scratch.clear t grant')
  store : ∀ {out grant grant' s t}, same grant grant' → ∀ (start : Nat) (bytes : Bytes),
    R out s t →
      R out (env.scratch.store s grant start bytes) (env'.scratch.store t grant' start bytes)
  read : ∀ {out s t}, R out s t → ∀ pos len,
    (env'.read t volume' pos len).1 = (env.read s volume pos len).1
      ∧ R out (env.read s volume pos len).2 (env'.read t volume' pos len).2

/-- The relation of an environment to itself: the states and the blocks are equal. -/
def Environment.SameState {σ : Type} (out : List (Grant × Grant)) (s t : σ) : Prop :=
  s = t ∧ ∀ pair ∈ out, pair.1 = pair.2

/-- Every environment is similar to itself. -/
theorem Environment.similar_self {σ : Type} (env : Environment σ) (volume : Volume) :
    Environment.Similar Eq Environment.SameState volume volume env env where
  size_eq := fun hsame => hsame ▸ rfl
  allocate := by
    rintro out s _ ⟨rfl, hout⟩ size
    cases hgrant : (env.scratch.allocate s size).1 with
    | none => exact .inl ⟨rfl, rfl, rfl, hout⟩
    | some grant =>
      exact .inr ⟨grant, grant, rfl, rfl, rfl, rfl, List.forall_mem_cons.mpr ⟨rfl, hout⟩⟩
  release := by
    rintro out grant grant' s _ ⟨rfl, hout⟩
    obtain ⟨hnewest, hrest⟩ := List.forall_mem_cons.mp hout
    dsimp only at hnewest
    subst hnewest
    exact ⟨rfl, hrest⟩
  clear := by
    rintro out grant _ s _ rfl ⟨rfl, hout⟩
    exact ⟨rfl, hout⟩
  store := by
    rintro out grant _ s _ rfl start bytes ⟨rfl, hout⟩
    exact ⟨rfl, hout⟩
  read := by
    rintro out s _ ⟨rfl, hout⟩ pos len
    exact ⟨rfl, rfl, hout⟩

section

variable {σ τ α β : Type} {same : Grant → Grant → Prop} {R : List (Grant × Grant) → σ → τ → Prop}
  {volume volume' : Volume} {env : Environment σ} {env' : Environment τ}

/-- Requests for buffers end in the same way. A block that is too small is given back at once. -/
theorem Environment.Similar.acquire (h : Environment.Similar same R volume volume' env env')
    {out : List (Grant × Grant)} {s : σ} {t : τ} (hR : R out s t) (size : Nat) :
    (∃ s' t', env.scratch.acquire s size = (.refused, s')
        ∧ env'.scratch.acquire t size = (.refused, t') ∧ R out s' t')
      ∨ (∃ grant grant' s' t', env.scratch.acquire s size = (.short grant, s')
        ∧ env'.scratch.acquire t size = (.short grant', t') ∧ R out s' t')
      ∨ ∃ grant grant' s' t', env.scratch.acquire s size = (.whole grant, s')
        ∧ env'.scratch.acquire t size = (.whole grant', t') ∧ same grant grant'
        ∧ R ((grant, grant') :: out) s' t' := by
  have hallocate := h.allocate hR size
  unfold Allocator.acquire
  rcases hs : env.scratch.allocate s size with ⟨answer, s'⟩
  rcases ht : env'.scratch.allocate t size with ⟨answer', t'⟩
  rw [hs, ht] at hallocate
  rcases hallocate with ⟨hnone, hnone', hR'⟩ | ⟨grant, grant', hsome, hsome', hsame, hR'⟩
  · cases hnone
    cases hnone'
    exact .inl ⟨s', t', rfl, rfl, hR'⟩
  · cases hsome
    cases hsome'
    dsimp only
    rw [h.size_eq hsame]
    by_cases hshort : grant.size < size
    · rw [if_pos hshort, if_pos hshort]
      exact .inr (.inl ⟨grant, grant', _, _, rfl, rfl, h.release hR'⟩)
    · rw [if_neg hshort, if_neg hshort]
      exact .inr (.inr ⟨grant, grant', _, _, rfl, rfl, hsame, h.clear hsame hR'⟩)

namespace Action

/-- From related states the two actions have the same result, whatever the registries are, and leave
related states behind. -/
def Similar (R : List (Grant × Grant) → σ → τ → Prop) (action : Action σ α) (action' : Action τ α) :
    Prop :=
  ∀ out s t, R out s t → ∀ registry registry',
    (action'.run registry' t).result = (action.run registry s).result
      ∧ R out (action.run registry s).state (action'.run registry' t).state

namespace Similar

theorem lift (x : Except Error α) : Similar R (liftM x) (liftM x) :=
  fun _ _ _ hR _ _ => ⟨rfl, hR⟩

theorem log (records : List Record) : Similar R (Action.log records) (Action.log records) :=
  fun _ _ _ hR _ _ => ⟨rfl, hR⟩

theorem bind {action : Action σ α} {action' : Action τ α} {next : α → Action σ β}
    {next' : α → Action τ β} (h : Similar R action action')
    (hnext : ∀ a, (∃ registry s, (action.run registry s).result = .ok a) →
      Similar R (next a) (next' a)) :
    Similar R (action >>= next) (action' >>= next') := by
  intro out s t hR registry registry'
  obtain ⟨hresult', hR'⟩ := h out s t hR registry registry'
  cases hresult : (action.run registry s).result with
  | error error =>
    rw [run_bind_of_error hresult, run_bind_of_error (hresult'.trans hresult)]
    exact ⟨rfl, hR'⟩
  | ok a =>
    rw [run_bind_of_ok hresult, run_bind_of_ok (hresult'.trans hresult)]
    exact hnext a ⟨registry, s, hresult⟩ out _ _ hR' _ _

theorem fill (h : Environment.Similar same R volume volume' env env') {buffer buffer' : Grant}
    (hsame : same buffer buffer') (pos len : Nat) :
    Similar R (Action.fill env buffer volume pos len)
      (Action.fill env' buffer' volume' pos len) := by
  intro out s t hR registry registry'
  have hsize := h.size_eq hsame
  rcases Nat.lt_or_ge buffer.size len with hshort | hlen
  · rw [run_fill_of_short hshort, run_fill_of_short (hsize.symm ▸ hshort)]
    exact ⟨rfl, hR⟩
  · obtain ⟨hanswer, hR'⟩ := h.read hR pos len
    rcases hread : env.read s volume pos len with ⟨answer, answered⟩
    rcases hread' : env'.read t volume' pos len with ⟨answer', answered'⟩
    rw [hread, hread'] at hanswer hR'
    cases hanswer
    cases answer with
    | ok block =>
      rw [run_fill_of_ok hlen hread, run_fill_of_ok (hsize.symm ▸ hlen) hread', hsize]
      exact ⟨rfl, h.store hsame 0 block.val hR'⟩
    | error error =>
      rw [run_fill_of_error hlen hread, run_fill_of_error (hsize.symm ▸ hlen) hread']
      exact ⟨rfl, hR'⟩

/-- What a buffer is lent to starts and ends with the blocks that were out before. -/
theorem withBuffer (h : Environment.Similar same R volume volume' env env') {size : Nat}
    {body : Grant → Action σ α} {body' : Grant → Action τ α}
    (hbody : ∀ grant grant', same grant grant' → Similar R (body grant) (body' grant')) :
    Similar R (Action.withBuffer env size body) (Action.withBuffer env' size body') := by
  intro out s t hR registry registry'
  rcases h.acquire hR size with ⟨s', t', hs, ht, hR'⟩ | ⟨grant, grant', s', t', hs, ht, hR'⟩
    | ⟨grant, grant', s', t', hs, ht, hsame, hR'⟩
  · rw [run_withBuffer_of_refused hs, run_withBuffer_of_refused ht]
    exact ⟨rfl, hR'⟩
  · rw [run_withBuffer_of_short hs, run_withBuffer_of_short ht]
    exact ⟨rfl, hR'⟩
  · obtain ⟨hresult, hafter⟩ := hbody grant grant' hsame _ _ _ hR' registry registry'
    rw [run_withBuffer_of_whole hs, run_withBuffer_of_whole ht]
    exact ⟨hresult, h.release hafter⟩

/-- So reading a table is similar, if what comes behind it is. -/
theorem reading (h : Environment.Similar same R volume volume env env') :
    ReadRules env env' same volume fun _ (action : Action σ α) (action' : Action τ α) =>
      Similar R action action' where
  lift_bind := fun x _ _ hnext => (lift x).bind fun c ⟨_, _, hc⟩ => hnext c hc
  log_bind := fun records _ _ hnext => (log records).bind fun _ _ => hnext
  fill_bind := fun hsame pos len _ _ hnext => (fill h hsame pos len).bind fun bytes _ => hnext bytes
  withBuffer := withBuffer h

/-- What is similar to itself does not depend on the registry. -/
theorem blind {action : Action σ α} (h : Similar Environment.SameState action action)
    (registry registry' : Registry) (state : σ) :
    (action.run registry' state).result = (action.run registry state).result
      ∧ (action.run registry' state).state = (action.run registry state).state := by
  obtain ⟨hresult, hstate, -⟩ :=
    h [] state state ⟨rfl, fun _ hmem => absurd hmem List.not_mem_nil⟩ registry registry'
  exact ⟨hresult, hstate.symm⟩

end Similar

end Action

/-- The first sectors of two volumes with sectors of one size are read with the same result. -/
theorem Scanner.similar_readBootSector (h : Environment.Similar same R volume volume' env env')
    (hsize : volume'.sectorSize = volume.sectorSize) (options : Options) :
    Action.Similar R (Scanner.readBootSector ⟨env, options⟩ volume)
      (Scanner.readBootSector ⟨env', options⟩ volume') := by
  unfold readBootSector
  rw [hsize]
  refine .withBuffer h fun _ _ hsame => (Action.Similar.fill h hsame _ _).bind fun _ _ => ?_
  exact (Action.Similar.lift _).bind fun _ _ => .lift _

end

end VolumeScan
