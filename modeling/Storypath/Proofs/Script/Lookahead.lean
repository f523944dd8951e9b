import Storypath.Proofs.Script.Reading

/-! What a reading has behind it. A token that is put back shows nothing but its kind to the construct
that ends there. So the constructs in front of a place stay as they are, whatever comes to stand there,
as long as it begins with a token of the same kind. -/
namespace Storypath

def nextKind? (ts : List Token) : Option TokenKind := ts.head?.map Token.kind

theorem Outline.Next.of_nextKind {ahead rest later : List Token} {t : Token}
    (next : Next ahead t rest) (same : nextKind? later = nextKind? ahead) :
    ∃ t' rest', Next later t' rest' ∧ t'.kind = t.kind := by
  cases next with
  | token notEnd =>
    cases later with
    | nil => simp [nextKind?] at same
    | cons t' rest' =>
      have kind : t'.kind = t.kind := by simpa [nextKind?] using same
      exact ⟨t', rest', .token (kind ▸ notEnd), kind⟩
  | atEnd atEnd blank =>
    cases later with
    | nil => exact ⟨t, [], .atEnd atEnd blank, rfl⟩
    | cons t' rest' => simp [nextKind?] at same

namespace Phase

variable {options : ScriptOptions} {phase phase' : Phase} {t t' : Token} {item? : Option Item}

theorem read_putBack_of_kind (read : phase.read options t = .putBack item? phase')
    (same : t'.kind = t.kind) : phase.read options t' = .putBack item? phase' := by
  cases phase <;> simp only [Phase.read, brokenChoice, same] at read ⊢ <;>
    (repeat' split at read) <;> simp_all

end Phase

namespace Reading

variable {source : String} {options : ScriptOptions} {target : Target} {r r' : Reading}

inductive Reached (source : String) (options : ScriptOptions) (target : Target) : Reading → Prop
  | start : Reached source options target (start source target)
  | step {r r' : Reading} (reached : Reached source options target r)
      (step : r.step source options = .inl r') : Reached source options target r'

theorem Reached.sound (reached : Reached source options target r) : r.Sound options := by
  induction reached with
  | start => exact sound_start options source target
  | step _ step ih => exact (passes_step ih (stepsTo_of_step step)).2

/-- The tokens `before` are behind a reading. They have made `items`, and what has been read of one
more construct, whatever comes next if its kind is that of the token that does. -/
structure Behind (source : String) (options : ScriptOptions) (before : List Token)
    (items : List Item) (r : Reading) : Prop where
  tokens : TokenStream.tokens source = before ++ r.feed.toCome
  entries : ∀ later, nextKind? later = nextKind? r.feed.ahead →
    Outline.entries options (counting before ++ later) =
      items.map .item ++ r.phase.entries options later

theorem behind_start (options : ScriptOptions) (source : String) (target : Target) :
    (start source target).Behind source options [] [] where
  tokens := by
    rw [TokenStream.tokens_eq_listFrom, Feed.toCome_of_held_none rfl]
    rfl
  entries later _ := rfl

/-- What a reply completes is made of whatever comes next, if the reply is the same to it. -/
theorem Behind.entries_of_read {before rest : List Token} {items : List Item} {t : Token}
    (sound : r.Sound options) (behind : r.Behind source options before items) (later : List Token)
    (same : nextKind? later = nextKind? r.feed.ahead) (next : Outline.Next later t rest) :
    Outline.entries options (counting before ++ later) =
      items.map .item ++ (r.phase.read options t).entries options later rest := by
  rw [behind.entries later same, Phase.entries_read sound.fits next]

theorem behind_step {before : List Token} {items : List Item} (sound : r.Sound options)
    (behind : r.Behind source options before items) (steps : r.StepsTo options r') :
    ∃ before' items', r'.Behind source options before' items' := by
  cases steps with
  | @skip t feed taken blank =>
    have notEnd : t.kind ≠ .endOfInput := by
      intro h
      simp [Token.isWhitespace, h] at blank
    have next := (Feed.take_next sound.feed taken).2.1
    have ahead := Feed.next_ahead next
    rw [if_pos blank] at ahead
    refine ⟨before ++ [t], items, by simpa [next.eq_cons notEnd] using behind.tokens, ?_⟩
    intro later same
    rw [← behind.entries later (by rw [same, ahead])]
    simp [counting, blank]
  | @take t feed item? phase walk taken counts read moves =>
    have notEnd := Phase.kind_ne_of_take read
    have next := (Feed.take_next sound.feed taken).2.1
    have ahead := Feed.next_ahead next
    rw [counts, if_neg Bool.false_ne_true] at ahead
    refine ⟨before ++ [t], items ++ item?.toList,
      by simpa [next.eq_cons notEnd] using behind.tokens, ?_⟩
    intro later _
    have made := behind.entries_of_read sound (t :: later)
      (by rw [ahead.eq_cons notEnd]; rfl) (.token notEnd)
    rw [read] at made
    cases item? <;> simpa [counting, counts, Reply.entries] using made
  | @putBack t feed item? phase walk taken counts read moves =>
    obtain ⟨held, next, -⟩ := Feed.take_next sound.feed taken
    have ahead := Feed.next_ahead next
    rw [counts, if_neg Bool.false_ne_true] at ahead
    have back : (feed.putBack t).toCome = r.feed.toCome := Feed.toCome_putBack held next
    refine ⟨before, items ++ item?.toList, by rw [back]; exact behind.tokens, ?_⟩
    intro later same
    replace same : nextKind? later = nextKind? r.feed.ahead := by
      rw [same, Feed.ahead, back, Feed.ahead]
    -- The token that is read in place of `t` is of its kind, and so it is put back too.
    obtain ⟨t', rest, next', kind⟩ := ahead.of_nextKind same
    have made := behind.entries_of_read sound later same next'
    rw [Phase.read_putBack_of_kind read kind] at made
    cases item? <;> simpa [Reply.entries] using made

theorem Reached.behind (reached : Reached source options target r) :
    ∃ before items, r.Behind source options before items := by
  induction reached with
  | start => exact ⟨[], [], behind_start options source target⟩
  | step reached step ih =>
    obtain ⟨before, items, behind⟩ := ih
    exact behind_step reached.sound behind (stepsTo_of_step step)

end Reading
end Storypath
