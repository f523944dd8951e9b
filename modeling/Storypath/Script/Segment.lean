import Storypath.Script.Walk

/-! Resolving: a segment of a script, from its label to its end, as a list of statements. The
script is read once, a token at a time, with room to put back one token and a limit on how
many tokens are asked for. -/
namespace Storypath

/-- Where tokens come from: the stream, the token put back, and how many the stream gave. -/
structure Feed where
  stream : TokenStream
  held : Option Token
  taken : Nat

namespace Feed

def ofSource (source : String) : Feed := ⟨.ofSource source, none, 0⟩

/-- The next token, unless the stream has already given `limit`. A token that was put back
comes first and does not count again. -/
def take (f : Feed) (limit : Nat) : Option (Token × Feed) :=
  match f.held with
  | some t => some (t, { f with held := none })
  | none =>
    if f.taken < limit then
      some (f.stream.token.1, { f with stream := f.stream.token.2, taken := f.taken + 1 })
    else none

def putBack (f : Feed) (t : Token) : Feed := { f with held := some t }

def weight (f : Feed) : Nat :=
  f.stream.rest.length +
    match f.held with
    | some t => if t.kind = .endOfInput then 0 else 1
    | none => 0

theorem weight_take {f f' : Feed} {t : Token} {limit : Nat} (h : f.take limit = some (t, f')) :
    f'.held = none ∧ f'.weight + (if t.kind = .endOfInput then 0 else 1) ≤ f.weight := by
  unfold take at h
  split at h
  · next t₀ ht =>
    simp only [Option.some.injEq, Prod.mk.injEq] at h
    obtain ⟨rfl, rfl⟩ := h
    simp [weight, ht]
  · next ht =>
    split at h
    · simp only [Option.some.injEq, Prod.mk.injEq] at h
      obtain ⟨rfl, rfl⟩ := h
      exact ⟨ht, by simpa [weight, ht] using f.stream.length_rest_token⟩
    · simp at h

theorem weight_putBack {f : Feed} {t : Token} (h : f.held = none) :
    (f.putBack t).weight = f.weight + (if t.kind = .endOfInput then 0 else 1) := by
  simp [weight, putBack, h]

end Feed

structure Reading where
  feed : Feed
  phase : Phase
  walk : Walk

namespace Reading

def start (source : String) (target : Target) : Reading :=
  ⟨.ofSource source, .between, .start target⟩

def after (feed : Feed) (phase : Phase) (walk : Walk) :
    Option Item → Reading ⊕ Except ScriptFault (List Statement)
  | none => .inl ⟨feed, phase, walk⟩
  | some item =>
    match walk.pass item with
    | .inl walk' => .inl ⟨feed, phase, walk'⟩
    | .inr statements => .inr (.ok statements)

def step (source : String) (options : ScriptOptions) (r : Reading) :
    Reading ⊕ Except ScriptFault (List Statement) :=
  match r.feed.take options.maxTokens with
  | none => .inr (.error (.tokenLimit options.maxTokens))
  | some (t, feed) =>
    if t.isWhitespace then .inl { r with feed := feed }
    else
      match r.phase.read options t with
      | .take item? phase => after feed phase r.walk item?
      | .putBack item? phase => after (feed.putBack t) phase r.walk item?
      | .flaw flaw => .inr (.error (flaw.fault source))
      | .refuse fault => .inr (.error fault)
      | .finish => .inr (r.walk.finish options.strict)

/-- What becomes smaller with every token: the text to read, and with a token put back the
number of phases that it can still pass through. -/
def measure (r : Reading) : Nat := 5 * r.feed.weight + r.phase.rank

theorem feed_phase_of_after {feed : Feed} {phase : Phase} {walk : Walk} {item? : Option Item}
    {r : Reading} (h : after feed phase walk item? = .inl r) :
    r.feed = feed ∧ r.phase = phase := by
  cases item? with
  | none => simp only [after, Sum.inl.injEq] at h; simp [← h]
  | some item =>
    simp only [after] at h
    split at h <;> simp only [Sum.inl.injEq, reduceCtorEq] at h
    simp [← h]

theorem measure_step {source : String} {options : ScriptOptions} {r r' : Reading}
    (h : r.step source options = .inl r') : r'.measure < r.measure := by
  unfold step at h
  split at h
  · simp at h
  next t feed ht =>
  obtain ⟨held, weight⟩ := Feed.weight_take ht
  split at h
  · next blank =>
    simp only [Sum.inl.injEq] at h
    have : t.kind = .whitespace := by simpa [Token.isWhitespace] using blank
    simp only [this, reduceCtorEq, if_false] at weight
    simp only [← h, measure]
    omega
  · split at h
    · next phase hp =>
      obtain ⟨hf, hq⟩ := feed_phase_of_after h
      simp only [Phase.kind_ne_of_take hp, if_false] at weight
      have := r'.phase.rank_le
      simp only [measure, hf]
      omega
    · next phase hp =>
      obtain ⟨hf, hq⟩ := feed_phase_of_after h
      have := Phase.rank_lt_of_putBack hp
      simp only [measure, hf, hq, Feed.weight_putBack held]
      omega
    · simp at h
    · simp at h
    · simp at h

def run (source : String) (options : ScriptOptions) (r : Reading) :
    Except ScriptFault (List Statement) :=
  match _h : r.step source options with
  | .inl r' => r'.run source options
  | .inr result => result
termination_by r.measure
decreasing_by exact measure_step _h

end Reading

def resolveTarget (source : String) (target : Target) (options : ScriptOptions) :
    Except ScriptFault (List Statement) :=
  (Reading.start source target).run source options

def resolve (source : String) (label : String) (options : ScriptOptions := {}) :
    Except ScriptFault (List Statement) :=
  resolveTarget source (.ofLabel label) options

def resolveReference (source : String) (reference : String) (options : ScriptOptions := {}) :
    Except ScriptFault (List Statement) :=
  resolveTarget source (.ofReference reference) options

end Storypath
