import Diglot.Proofs.CodeTokens

/-!
# Nested comments

A grammar of block comments. Between its opener and its closer a comment holds other comments, and
characters at which neither an opener nor a closer starts; the latter depends on what follows, so
the grammar describes a text before a rest.

The scanner has no grammar, only a count of the comments that are open. It passes a comment of the
grammar at every count and whatever follows it (`blockTail_block`). Conversely, if it counts down to
zero, what it has passed is cut by the grammar into one stretch for each comment that was open
(`closes_blockTail`). So a comment in code is the one front of the source that the grammar allows,
and all of the source if there is none (`block_comment_grammar`).
-/

set_option autoImplicit false

namespace Diglot

namespace Comment

/-! ## The grammar -/

mutual

/-- The text is a block comment, before the rest of the input. -/
inductive Block : Text → Text → Prop
  | mk {inside rest : Text} : Items inside ('*' :: '/' :: rest) →
      Block ('/' :: '*' :: (inside ++ ['*', '/'])) rest

/-- The text may stand in a block comment, before the rest of the input: it is made of comments and
of characters at which neither an opener nor a closer starts. -/
inductive Items : Text → Text → Prop
  | none (rest : Text) : Items [] rest
  | comment {comment more rest : Text} : Block comment (more ++ rest) → Items more rest →
      Items (comment ++ more) rest
  | plain {c : Char} {more rest : Text} : ¬['/', '*'] <+: c :: (more ++ rest) →
      ¬['*', '/'] <+: c :: (more ++ rest) → Items more rest → Items (c :: more) rest

end

/-! ## What the count passes -/

/-- No delimiter of two characters starts here, as the alternatives of `blockTail` say it. -/
theorem not_pair_isPrefix_iff {a b c : Char} {cs : Text} :
    ¬[a, b] <+: c :: cs ↔ ∀ tail, c = a → cs = b :: tail → False := by
  constructor
  · rintro apart tail rfl rfl
    exact apart ⟨tail, rfl⟩
  · rintro apart ⟨tail, same⟩
    obtain ⟨rfl, rfl⟩ := List.cons.inj same
    exact apart tail rfl rfl

theorem blockTail_opener (depth : Nat) (cs : Text) :
    blockTail (depth + 1) ('/' :: '*' :: cs) = (blockTail (depth + 2) cs).after ['/', '*'] := by
  rw [blockTail]

theorem blockTail_closer (depth : Nat) (cs : Text) :
    blockTail (depth + 1) ('*' :: '/' :: cs) = (blockTail depth cs).after ['*', '/'] := by
  rw [blockTail]

theorem blockTail_plain {c : Char} {cs : Text} (noOpener : ¬['/', '*'] <+: c :: cs)
    (noCloser : ¬['*', '/'] <+: c :: cs) (depth : Nat) :
    blockTail (depth + 1) (c :: cs) = (blockTail (depth + 1) cs).after [c] := by
  rw [blockTail]
  · exact not_pair_isPrefix_iff.1 noOpener
  · exact not_pair_isPrefix_iff.1 noCloser

mutual

/-- Inside any number of comments, a comment is passed and they are still open behind it. -/
theorem blockTail_block {comment rest : Text} (block : Block comment rest) (depth : Nat) :
    blockTail (depth + 1) (comment ++ rest) = (blockTail (depth + 1) rest).after comment := by
  match block with
  | @Block.mk inside _ items =>
    have passed := blockTail_items items (depth + 1)
    have text : '/' :: '*' :: (inside ++ ['*', '/']) ++ rest =
        '/' :: '*' :: (inside ++ '*' :: '/' :: rest) := by simp
    rw [text, blockTail_opener, passed, blockTail_closer]
    simp [Cut.after]

theorem blockTail_items {inside rest : Text} (items : Items inside rest) (depth : Nat) :
    blockTail (depth + 1) (inside ++ rest) = (blockTail (depth + 1) rest).after inside := by
  match items with
  | .none rest => rfl
  | .comment block items =>
    rw [List.append_assoc, blockTail_block block depth, blockTail_items items depth]
    simp [Cut.after]
  | .plain noOpener noCloser items =>
    rw [List.cons_append, blockTail_plain noOpener noCloser, blockTail_items items depth]
    simp [Cut.after]

end

/-- A comment of the grammar is taken exactly, whatever follows it. -/
theorem blockCommentCut_block {comment cs rest : Text} (block : Block comment rest)
    (here : '/' :: '*' :: cs = comment ++ rest) :
    blockCommentCut '/' ('*' :: cs) = ⟨comment, rest⟩ := by
  cases block with
  | @mk inside rest items =>
    obtain rfl : cs = inside ++ '*' :: '/' :: rest := by simpa using here
    rw [blockCommentCut, blockTail_items items 0, blockTail_closer]
    simp [Cut.after, blockTail, Cut.nothing]

/-! ## What the count stops behind -/

/-- The text closes `depth` comments that are open before it: for each of them it has a stretch that
may stand in a comment, and a closer. -/
def Closes : Nat → Text → Text → Prop
  | 0, text, _ => text = []
  | depth + 1, text, rest => ∃ inside more, text = inside ++ '*' :: '/' :: more ∧
      Items inside ('*' :: '/' :: (more ++ rest)) ∧ Closes depth more rest

/-- With an opener before it, the first stretch becomes a comment of the second. -/
theorem Closes.opener {depth : Nat} {text rest : Text} (closes : Closes (depth + 2) text rest) :
    Closes (depth + 1) ('/' :: '*' :: text) rest := by
  obtain ⟨inside, _, rfl, items, further, more, rfl, itemsFurther, closes⟩ := closes
  have block : Block ('/' :: '*' :: (inside ++ ['*', '/']))
      (further ++ '*' :: '/' :: (more ++ rest)) := .mk (by simpa using items)
  exact ⟨_, more, by simp, .comment block itemsFurther, closes⟩

theorem Closes.plain {depth : Nat} {c : Char} {text rest : Text}
    (noOpener : ¬['/', '*'] <+: c :: (text ++ rest))
    (noCloser : ¬['*', '/'] <+: c :: (text ++ rest))
    (closes : Closes (depth + 1) text rest) : Closes (depth + 1) (c :: text) rest := by
  obtain ⟨inside, more, rfl, items, closes⟩ := closes
  have same : inside ++ '*' :: '/' :: more ++ rest = inside ++ '*' :: '/' :: (more ++ rest) := by
    simp
  rw [same] at noOpener noCloser
  exact ⟨c :: inside, more, rfl, .plain noOpener noCloser items, closes⟩

/-- What is passed until the count is zero closes the comments that were counted; otherwise the
text ends. -/
theorem closes_blockTail (depth : Nat) (input : Text) :
    Closes depth (blockTail depth input).taken (blockTail depth input).rest ∨
      (blockTail depth input).rest = [] := by
  fun_induction blockTail depth input with
  | case1 => exact .inl rfl
  | case2 => exact .inr rfl
  | case3 depth cs ih => exact ih.imp Closes.opener id
  | case4 depth cs ih => exact ih.imp (fun closes => ⟨[], _, rfl, .none _, closes⟩) id
  | case5 depth c cs noOpener noCloser ih =>
    have whole : (blockTail (depth + 1) cs).taken ++ (blockTail (depth + 1) cs).rest = cs :=
      whole_blockTail (depth + 1) cs
    replace noOpener := not_pair_isPrefix_iff.2 noOpener
    replace noCloser := not_pair_isPrefix_iff.2 noCloser
    rw [← whole] at noOpener noCloser
    exact ih.imp (Closes.plain noOpener noCloser) id

/-- A comment that does not end with the text is one of the grammar. -/
theorem block_blockCommentCut (cs : Text) :
    Block (blockCommentCut '/' ('*' :: cs)).taken (blockCommentCut '/' ('*' :: cs)).rest ∨
      (blockCommentCut '/' ('*' :: cs)).rest = [] := by
  refine (closes_blockTail 1 cs).imp ?_ id
  rintro ⟨inside, more, taken, items, rfl⟩
  simp only [blockCommentCut, Cut.after, taken]
  exact .mk items

end Comment

/-! ## Comments of a scan -/

/-- Where a block comment opens in code, the next token is a comment: the only front of what follows
in the source that is a block comment of the grammar, or all that follows if there is none. -/
theorem block_comment_grammar (localized : Bool) (source : Text) (cursor : Cursor)
    (reached : Cursor.Reached source localized cursor)
    (inCode : cursor.frames.head? ≠ some .string)
    (opens : ['/', '*'] <+: source.drop cursor.position) :
    ∃ text, Cursor.Records source localized cursor ⟨.comment, text⟩ ∧
      OnlyFront Comment.Block (source.drop cursor.position) text := by
  obtain ⟨cs, split⟩ := opens
  have here : source.drop cursor.position = '/' :: '*' :: cs := split.symm
  have form : Form.ofStart '/' ('*' :: cs) = .blockComment := Form.ofStart_block rfl
  have stepped : codeStep localized [] '/' ('*' :: cs) =
      ⟨.comment, blockCommentCut '/' ('*' :: cs), .code []⟩ := by rw [codeStep, form]
  have records := reached.records inCode here (by simp [form]) (by simp [form])
  rw [stepped] at records
  refine ⟨_, records, ?_⟩
  rw [here]
  apply onlyFront_of_cut (whole_blockCommentCut '/' ('*' :: cs))
  · exact fun text rest split block => Comment.blockCommentCut_block block split
  · exact Comment.block_blockCommentCut cs

/-- An interpolation that begins with a comment, in which openers and closers overlap. -/
def overlappingText : Text := "\"\\(/*/**/*/*/b)\"".toList

def overlappingCursor : Cursor where
  position := 3
  frames := [.interpolation 0, .string]
  tokens := Token.place 0 [⟨.stringLiteral, ['"']⟩, ⟨.delimiter, ['\\', '(']⟩]

theorem block_comment_grammar_overlapping :
    Cursor.Reached overlappingText false overlappingCursor ∧
      Cursor.Records overlappingText false overlappingCursor ⟨.comment, "/*/**/*/".toList⟩ ∧
      OnlyFront Comment.Block "/*/**/*/*/b)\"".toList "/*/**/*/".toList := by
  have reached : Cursor.Reached overlappingText false overlappingCursor :=
    .turn .start (by decide) rfl
  have found : lexemes false overlappingText =
      [⟨.stringLiteral, ['"']⟩, ⟨.delimiter, ['\\', '(']⟩, ⟨.comment, "/*/**/*/".toList⟩,
       ⟨.operator, ['*', '/']⟩, ⟨.identifier, ['b']⟩, ⟨.delimiter, [')']⟩,
       ⟨.stringLiteral, ['"']⟩] := by decide +kernel
  have scanned : scan false overlappingText = overlappingCursor.tokens ++ Token.place 3
      [⟨.comment, "/*/**/*/".toList⟩, ⟨.operator, ['*', '/']⟩, ⟨.identifier, ['b']⟩,
       ⟨.delimiter, [')']⟩, ⟨.stringLiteral, ['"']⟩] := by
    rw [scan, found]
    rfl
  obtain ⟨text, records, only⟩ := block_comment_grammar false overlappingText overlappingCursor
    reached (by decide) (by decide)
  obtain rfl : text = "/*/**/*/".toList :=
    congrArg Lexeme.text (records.eq_of_scan scanned)
  exact ⟨reached, records, only⟩

end Diglot
