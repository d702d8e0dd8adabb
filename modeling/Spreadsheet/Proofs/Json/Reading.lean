import Spreadsheet.Proofs.Json.Literals

/-!
# Laid out JSON is read back

A tree has the tokens that its text is cut into (`JsonTree.tokens`). Cutting the layout of a tree
gives these tokens, at any depth and whatever comes behind the text (`JsonTree.cuts_layout`), and
building them gives the tree, inside any open arrays and objects (`JsonTree.foldlM_tokens`). So a
laid out tree is read back (`JsonTree.ofText?_layout`), if its numbers are number literals.
-/

namespace Spreadsheet

/-! ## Cutting -/

namespace JsonToken

open JsonNumber

/-- The text is cut into the tokens, whatever comes behind it, unless that goes on a number. -/
def Cuts (cs : List Char) (tokens : List JsonToken) : Prop :=
  ∀ rest, Stops rest → ofChars? (cs ++ rest) = (ofChars? rest).map (tokens ++ ·)

variable {c : Char} {cs cs' rest : List Char} {token : JsonToken} {tokens tokens' : List JsonToken}

theorem ofChars?_cons {read : Option JsonToken} (h : next c cs = some (read, rest)) :
    ofChars? (c :: cs) = (ofChars? rest).map (read.toList ++ ·) := by
  rw [ofChars?]
  split
  · rename_i none_read
    rw [h] at none_read
    cases none_read
  · rename_i read' rest' found
    obtain ⟨rfl, rfl⟩ := Prod.mk.inj (Option.some.inj (h.symm.trans found))
    rfl

theorem ofChars?_token (h : next c cs = some (some token, rest)) :
    ofChars? (c :: cs) = (ofChars? rest).map (token :: ·) :=
  ofChars?_cons h

theorem ofChars?_gap (h : isGap c = true) : ofChars? (c :: cs) = ofChars? cs := by
  have passed : next c cs = some (none, cs) := by simp [next, h]
  rw [ofChars?_cons passed]
  simp

theorem ofChars?_newLine (depth : Nat) :
    ofChars? (JsonTree.newLine depth ++ cs) = ofChars? cs := by
  rw [JsonTree.newLine, List.cons_append, ofChars?_gap rfl]
  induction 2 * depth with
  | zero => rfl
  | succ n ih => rw [List.replicate_succ, List.cons_append, ofChars?_gap rfl, ih]

/-- What starts like a number is read as one. -/
theorem next_of_start (start : c = '-' ∨ c.isDigit = true) {text : List Char}
    (h : JsonNumber.read? (c :: cs) = some (text, rest)) :
    next c cs = some (some (.number text), rest) := by
  have ne : ∀ d, d ≠ '-' → d.isDigit = false → c ≠ d := by
    rintro d not_minus not_digit rfl
    simp [not_minus, not_digit] at start
  have no_gap : isGap c = false := by
    simp [isGap, ne ' ' (by decide) (by decide), ne '\t' (by decide) (by decide),
      ne '\n' (by decide) (by decide), ne '\r' (by decide) (by decide)]
  have no_symbol : ofSymbol? c = none := by
    unfold ofSymbol?
    split
    all_goals first | rfl | exact absurd rfl (ne _ (by decide) (by decide))
  have no_quote : c ≠ '"' := ne '"' (by decide) (by decide)
  simp [next, no_gap, no_symbol, no_quote, start, h]

namespace Cuts

theorem nil : Cuts [] [] := by
  intro rest _
  simp

/-- A token that is read whatever comes behind it may stand in front. -/
theorem cons (h : ∀ cs, next c cs = some (some token, cs)) (cut : Cuts cs tokens) :
    Cuts (c :: cs) (token :: tokens) := by
  intro rest stops
  rw [List.cons_append, ofChars?_token (h _), cut rest stops, Option.map_map]
  rfl

theorem newLine (depth : Nat) (cut : Cuts cs tokens) :
    Cuts (JsonTree.newLine depth ++ cs) tokens := by
  intro rest stops
  rw [List.append_assoc, ofChars?_newLine, cut rest stops]

theorem gap (h : isGap c = true) (cut : Cuts cs tokens) : Cuts (c :: cs) tokens := by
  intro rest stops
  rw [List.cons_append, ofChars?_gap h, cut rest stops]

theorem text (key : Option String) (cut : Cuts cs tokens) :
    Cuts (JsonTree.writeText key ++ cs) (.string key :: tokens) := by
  intro rest stops
  have read : ∀ body, JsonString.read? body = some (key, cs ++ rest) →
      ofChars? ('"' :: body) = (ofChars? rest).map (.string key :: tokens ++ ·) := by
    intro body found
    have first : next '"' body = some (some (.string key), cs ++ rest) := by
      simp [next, isGap, ofSymbol?, found]
    rw [ofChars?_token first, cut rest stops, Option.map_map]
    rfl
  rw [List.append_assoc]
  cases key with
  | some s =>
    rw [JsonTree.writeText, JsonString.write, List.cons_append, List.append_assoc]
    exact read _ (JsonString.read?_write s)
  | none => exact read _ JsonString.read?_half

theorem number {text : List Char} (h : IsLiteral text) : Cuts text [.number text] := by
  intro rest stops
  cases text with
  | nil => cases h
  | cons c cs =>
    have first : next c (cs ++ rest) = some (some (.number (c :: cs)), rest) :=
      next_of_start (start_of_read? h) (read?_append h stops)
    rw [List.cons_append, ofChars?_token first]
    rfl

/-- Two texts are cut one after the other, if the second one does not go on a number. -/
theorem append (cut : Cuts cs tokens) (stops : Stops cs') (cut' : Cuts cs' tokens') :
    Cuts (cs ++ cs') (tokens ++ tokens') := by
  intro rest stops'
  rw [List.append_assoc, cut _ (stops.append stops'), cut' rest stops', Option.map_map]
  congr 1
  funext more
  exact (List.append_assoc ..).symm

end Cuts

end JsonToken

/-! ## The tokens of a tree -/

namespace JsonTree

mutual

/-- The tokens that a tree is written with. -/
def tokens : JsonTree → List JsonToken
  | .null => [.null]
  | .bool b => [.bool b]
  | .number text => [.number text]
  | .string text => [.string text]
  | .array items => .leftBracket :: (itemTokens items ++ [.rightBracket])
  | .object members => .leftBrace :: (memberTokens members ++ [.rightBrace])

/-- The tokens of the items of an array. -/
def itemTokens : List JsonTree → List JsonToken
  | [] => []
  | [item] => tokens item
  | item :: items => tokens item ++ .comma :: itemTokens items

/-- The tokens of the members of an object. -/
def memberTokens : List (Option String × JsonTree) → List JsonToken
  | [] => []
  | [(key, value)] => .string key :: .colon :: tokens value
  | (key, value) :: members =>
    .string key :: .colon :: (tokens value ++ .comma :: memberTokens members)

end

mutual

/-- Every number in the tree is a number literal. -/
def Legal : JsonTree → Prop
  | .number text => JsonNumber.IsLiteral text
  | .array items => LegalItems items
  | .object members => LegalMembers members
  | .null | .bool _ | .string _ => True

/-- Every number in the items is a number literal. -/
def LegalItems : List JsonTree → Prop
  | [] => True
  | item :: items => Legal item ∧ LegalItems items

/-- Every number in the members is a number literal. -/
def LegalMembers : List (Option String × JsonTree) → Prop
  | [] => True
  | (_, value) :: members => Legal value ∧ LegalMembers members

end

open JsonToken JsonNumber

section

variable (depth : Nat) (item next : JsonTree) (items : List JsonTree) (key : Option String)
  (member : Option String × JsonTree) (members : List (Option String × JsonTree))

theorem layout_array_cons : layout depth (.array (item :: items)) =
    '[' :: (layoutItems (depth + 1) (item :: items) ++ newLine depth ++ [']']) := by
  rw [layout]
  simp

theorem layout_object_cons : layout depth (.object (member :: members)) =
    '{' :: (layoutMembers (depth + 1) (member :: members) ++ newLine depth ++ ['}']) := by
  rw [layout]
  simp

theorem layoutItems_cons_cons : layoutItems depth (item :: next :: items) =
    newLine depth ++ layout depth item ++ ',' :: layoutItems depth (next :: items) := by
  rw [layoutItems]
  simp

theorem layoutMembers_cons_cons : layoutMembers depth ((key, item) :: member :: members) =
    newLine depth ++ writeText key ++ [':', ' '] ++ layout depth item ++
      ',' :: layoutMembers depth (member :: members) := by
  rw [layoutMembers]
  simp

theorem itemTokens_cons_cons :
    itemTokens (item :: next :: items) = item.tokens ++ .comma :: itemTokens (next :: items) := by
  rw [itemTokens]
  simp

theorem memberTokens_cons_cons : memberTokens ((key, item) :: member :: members) =
    .string key :: .colon :: (item.tokens ++ .comma :: memberTokens (member :: members)) := by
  rw [memberTokens]
  simp

end

theorem stops_newLine (depth : Nat) (cs : List Char) : Stops (newLine depth ++ cs) :=
  stops_cons (by decide)

/-- A word is cut into its token. -/
theorem cuts_word {word : List Char} {token : JsonToken}
    (h : ∀ rest, ofChars? (word ++ rest) = (ofChars? rest).map (token :: ·)) :
    Cuts word [token] :=
  fun rest _ => h rest

/-- A member is cut into its key, a colon and the tokens of its value. -/
theorem cuts_member (depth : Nat) (key : Option String) {cs : List Char} {tokens : List JsonToken}
    (cut : Cuts cs tokens) : Cuts (newLine depth ++ writeText key ++ [':', ' '] ++ cs)
      (.string key :: .colon :: tokens) := by
  have value : Cuts (':' :: ' ' :: cs) (.colon :: tokens) :=
    Cuts.cons (fun _ => rfl) (Cuts.gap rfl cut)
  have member := (Cuts.text key value).newLine depth
  simpa only [List.append_assoc, List.cons_append, List.nil_append] using member

mutual

/-- **Cutting** the layout of a tree gives its tokens. -/
theorem cuts_layout : ∀ (depth : Nat) (t : JsonTree), t.Legal → Cuts (layout depth t) t.tokens
  | depth, .null, _ => by
    rw [layout, tokens]
    exact cuts_word fun rest => ofChars?_token (by rfl)
  | depth, .bool true, _ => by
    rw [layout, tokens]
    exact cuts_word fun rest => ofChars?_token (by rfl)
  | depth, .bool false, _ => by
    rw [layout, tokens]
    exact cuts_word fun rest => ofChars?_token (by rfl)
  | depth, .number text, legal => by
    rw [layout, tokens]
    exact Cuts.number (by rwa [Legal] at legal)
  | depth, .string text, _ => by
    rw [layout, tokens]
    have cut := Cuts.text text Cuts.nil
    rwa [List.append_nil] at cut
  | depth, .array [], _ => by
    rw [layout, tokens, itemTokens]
    exact Cuts.cons (fun _ => rfl) (Cuts.cons (fun _ => rfl) Cuts.nil)
  | depth, .array (item :: items), legal => by
    rw [Legal] at legal
    rw [layout_array_cons, tokens, List.append_assoc]
    have close : Cuts (newLine depth ++ [']']) [.rightBracket] :=
      (Cuts.cons (fun _ => rfl) Cuts.nil).newLine depth
    have inner := cuts_layoutItems (depth + 1) (item :: items) legal
    exact Cuts.cons (fun _ => rfl) (inner.append (stops_newLine depth _) close)
  | depth, .object [], _ => by
    rw [layout, tokens, memberTokens]
    exact Cuts.cons (fun _ => rfl) (Cuts.cons (fun _ => rfl) Cuts.nil)
  | depth, .object (member :: members), legal => by
    rw [Legal] at legal
    rw [layout_object_cons, tokens, List.append_assoc]
    have close : Cuts (newLine depth ++ ['}']) [.rightBrace] :=
      (Cuts.cons (fun _ => rfl) Cuts.nil).newLine depth
    have inner := cuts_layoutMembers (depth + 1) (member :: members) legal
    exact Cuts.cons (fun _ => rfl) (inner.append (stops_newLine depth _) close)

/-- Cutting the layout of items gives their tokens. -/
theorem cuts_layoutItems : ∀ (depth : Nat) (items : List JsonTree), LegalItems items →
    Cuts (layoutItems depth items) (itemTokens items)
  | depth, [], _ => by
    rw [layoutItems, itemTokens]
    exact Cuts.nil
  | depth, [item], legal => by
    rw [LegalItems] at legal
    rw [layoutItems, itemTokens]
    exact (cuts_layout depth item legal.1).newLine depth
  | depth, item :: next :: items, legal => by
    rw [LegalItems] at legal
    rw [layoutItems_cons_cons, itemTokens_cons_cons]
    have first := (cuts_layout depth item legal.1).newLine depth
    have more := cuts_layoutItems depth (next :: items) legal.2
    exact first.append (stops_cons (by decide)) (Cuts.cons (fun _ => rfl) more)

/-- Cutting the layout of members gives their tokens. -/
theorem cuts_layoutMembers : ∀ (depth : Nat) (members : List (Option String × JsonTree)),
    LegalMembers members → Cuts (layoutMembers depth members) (memberTokens members)
  | depth, [], _ => by
    rw [layoutMembers, memberTokens]
    exact Cuts.nil
  | depth, [(key, value)], legal => by
    rw [LegalMembers] at legal
    rw [layoutMembers, memberTokens]
    exact cuts_member depth key (cuts_layout depth value legal.1)
  | depth, (key, value) :: next :: members, legal => by
    rw [LegalMembers] at legal
    rw [layoutMembers_cons_cons, memberTokens_cons_cons]
    have first := cuts_member depth key (cuts_layout depth value legal.1)
    have more := cuts_layoutMembers depth (next :: members) legal.2
    exact first.append (stops_cons (by decide)) (Cuts.cons (fun _ => rfl) more)

end

/-! ## Building -/

/-- The first item of an array is read like any other value. -/
theorem exists_head_tokens (t : JsonTree) : ∃ token rest, t.tokens = token :: rest ∧
    ∀ outer, Reading.step (.firstItem outer) token =
      Reading.step (.value (.array [] :: outer)) token := by
  cases t <;> exact ⟨_, _, by rw [tokens], fun _ => rfl⟩

theorem foldlM_firstItem (item : JsonTree) (items : List JsonTree) (more : List JsonToken)
    (outer : List Frame) :
    (itemTokens (item :: items) ++ more).foldlM Reading.step (.firstItem outer) =
      (itemTokens (item :: items) ++ more).foldlM Reading.step (.value (.array [] :: outer)) := by
  obtain ⟨token, rest, head, same⟩ := exists_head_tokens item
  obtain ⟨rest', head'⟩ : ∃ rest', itemTokens (item :: items) = token :: rest' := by
    cases items with
    | nil => exact ⟨rest, by rw [itemTokens, head]⟩
    | cons next items => exact ⟨_, by rw [itemTokens_cons_cons, head, List.cons_append]⟩
  rw [head', List.cons_append, List.foldlM_cons, List.foldlM_cons, same]

theorem foldlM_firstKey (key : Option String) (value : JsonTree)
    (members : List (Option String × JsonTree)) (more : List JsonToken) (outer : List Frame) :
    (memberTokens ((key, value) :: members) ++ more).foldlM Reading.step (.firstKey outer) =
      (memberTokens ((key, value) :: members) ++ more).foldlM Reading.step (.nextKey [] outer) := by
  obtain ⟨rest, head⟩ : ∃ rest, memberTokens ((key, value) :: members) = .string key :: rest := by
    cases members with
    | nil => exact ⟨_, by rw [memberTokens]⟩
    | cons next members => exact ⟨_, by rw [memberTokens_cons_cons]⟩
  rw [head]
  rfl

mutual

/-- **Building** the tokens of a tree gives the tree, inside any open arrays and objects. -/
theorem foldlM_tokens : ∀ (t : JsonTree) (outer : List Frame),
    t.tokens.foldlM Reading.step (.value outer) = some (Reading.close t outer)
  | .null, outer => by
    rw [tokens]
    rfl
  | .bool b, outer => by
    rw [tokens]
    rfl
  | .number text, outer => by
    rw [tokens]
    rfl
  | .string text, outer => by
    rw [tokens]
    rfl
  | .array [], outer => by
    rw [tokens, itemTokens]
    rfl
  | .array (item :: items), outer => by
    have opened : Reading.step (.value outer) .leftBracket = some (.firstItem outer) := rfl
    rw [tokens, List.foldlM_cons, opened]
    exact (foldlM_firstItem item items _ outer).trans
      (foldlM_items (item :: items) [] outer (List.cons_ne_nil _ _))
  | .object [], outer => by
    rw [tokens, memberTokens]
    rfl
  | .object ((key, value) :: members), outer => by
    have opened : Reading.step (.value outer) .leftBrace = some (.firstKey outer) := rfl
    rw [tokens, List.foldlM_cons, opened]
    exact (foldlM_firstKey key value members _ outer).trans
      (foldlM_members ((key, value) :: members) [] outer (List.cons_ne_nil _ _))

/-- Building the items of an array, behind some that have been read. -/
theorem foldlM_items : ∀ (items before : List JsonTree) (outer : List Frame), items ≠ [] →
    (itemTokens items ++ [JsonToken.rightBracket]).foldlM Reading.step
        (.value (.array before :: outer)) =
      some (Reading.close (.array (before.reverse ++ items)) outer)
  | [], _, _, not_empty => absurd rfl not_empty
  | [item], before, outer, _ => by
    rw [itemTokens, List.foldlM_append, foldlM_tokens item]
    change some (Reading.close (.array (item :: before).reverse) outer) = _
    rw [List.reverse_cons]
  | item :: next :: items, before, outer, _ => by
    rw [itemTokens_cons_cons, List.append_assoc, List.foldlM_append, foldlM_tokens item]
    have more := foldlM_items (next :: items) (item :: before) outer (List.cons_ne_nil _ _)
    rw [List.reverse_cons, List.append_assoc] at more
    exact more

/-- Building the members of an object, behind some that have been read. -/
theorem foldlM_members : ∀ (members before : List (Option String × JsonTree))
    (outer : List Frame), members ≠ [] →
    (memberTokens members ++ [JsonToken.rightBrace]).foldlM Reading.step (.nextKey before outer) =
      some (Reading.close (.object (before.reverse ++ members)) outer)
  | [], _, _, not_empty => absurd rfl not_empty
  | [(key, value)], before, outer, _ => by
    have built := foldlM_tokens value (.object before key :: outer)
    rw [memberTokens]
    change (value.tokens ++ [JsonToken.rightBrace]).foldlM Reading.step
      (.value (.object before key :: outer)) = _
    rw [List.foldlM_append, built]
    change some (Reading.close (.object ((key, value) :: before).reverse) outer) = _
    rw [List.reverse_cons]
  | (key, value) :: next :: members, before, outer, _ => by
    have built := foldlM_tokens value (.object before key :: outer)
    have more := foldlM_members (next :: members) ((key, value) :: before) outer
      (List.cons_ne_nil _ _)
    rw [List.reverse_cons, List.append_assoc] at more
    rw [memberTokens_cons_cons]
    change ((value.tokens ++ .comma :: memberTokens (next :: members)) ++
      [JsonToken.rightBrace]).foldlM Reading.step (.value (.object before key :: outer)) = _
    rw [List.append_assoc, List.foldlM_append, built]
    exact more

end

theorem ofTokens?_tokens (t : JsonTree) : ofTokens? t.tokens = some t := by
  rw [ofTokens?, foldlM_tokens]
  rfl

/-- **A laid out tree is read back.** -/
theorem ofText?_layout {t : JsonTree} (legal : t.Legal) (depth : Nat) :
    ofText? (String.ofList (layout depth t)) = some t := by
  have cut := cuts_layout depth t legal [] stops_nil
  have none_left : ofChars? [] = some [] := by rw [ofChars?]
  rw [List.append_nil, none_left] at cut
  rw [ofText?, JsonToken.ofText?_eq, String.toList_ofList, cut]
  simp [ofTokens?_tokens]

end JsonTree

end Spreadsheet
