/-
Lean model of `DefaultErrorHandler` of package `oauth2` (in `src/Dockerfile`, which holds the Go file): the fallback
error page, written with `fmt.Fprintf` from a fixed HTML template whose two `%s` verbs take the query values `error`
and `error_description`. `%s` prints a string as it is: nothing in the handler escapes the values.

The markup of a page is read with a tokenizer of the HTML data state: `<` followed by an ASCII letter, `/`, `!` or
`?` opens a tag, which runs to the next `>`; every other character is text. A tag is its text between `<` and `>`,
name and attributes. (Quoted attribute values holding `>` are not modelled; the template has none.)

Results:
- `sprintf_verb`: `Sprintf` copies the text before a verb and prints the argument there as it is.
- `defaultErrorHandler_eq`: the page is the template's text with the two values spliced in verbatim.
- `tokens_append`, `markup_append` (run lemma of the tokenizer): a text's tags are its first part's tags, then the
  second part's tags read from the state the first part ends in.
- `markup_defaultErrorHandler`: when neither value leaves the tokenizer inside a tag, the page's tags are the
  template's, with each value's own tags inserted where it stands.
- `defaultErrorHandler_markup`: each value stands verbatim at its own place in the page, inside its `li`; two
  requests whose values hold no `<` get pages with the same tags, the template's.
- `defaultErrorHandler_script`: the value `<script>alert(1)</script>` of `error` adds a `script` element to the page.
-/
import Mathlib.Data.List.Basic

namespace Hydra.OAuth2

/-! ## The handler -/

/-- `fmt.Sprintf` (what `fmt.Fprintf` writes) for a format whose only verb is `%s`, with string arguments: a verb
with no argument left prints `%!s(MISSING)`, and arguments left over are listed after the text -/
def sprintf : List Char → List String → List Char
  | '%' :: 's' :: format, arg :: args => arg.toList ++ sprintf format args
  | '%' :: 's' :: format, [] => "%!s(MISSING)".toList ++ sprintf format []
  | c :: format, args => c :: sprintf format args
  | [], [] => []
  | [], args => ("%!(EXTRA " ++ ", ".intercalate (args.map ("string=" ++ ·)) ++ ")").toList

/-- the template `DefaultErrorHandler` passes to `fmt.Fprintf`, one source line to a line -/
def errorPageTemplate : String :=
  "\n" ++
  "<html>\n" ++
  "<head>\n" ++
  "\t<title>An OAuth 2.0 Error Occurred</title>\n" ++
  "</head>\n" ++
  "<body>\n" ++
  "<h1>\n" ++
  "\tThe OAuth2 request resulted in an error.\n" ++
  "</h1>\n" ++
  "<ul>\n" ++
  "\t<li>Error: %s</li>\n" ++
  "\t<li>Description: %s</li>\n" ++
  "</ul>\n" ++
  "<p>\n" ++
  "\tYou are seeing this default error page because the administrator has not set a dedicated error URL. \n" ++
  "\tIf you are an administrator, please read <a href=\"https://www.ory.sh/docs\">the guide</a> to understand what you\n" ++
  "\tneed to do. If you are a user, please contact the administrator.\n" ++
  "</p>\n" ++
  "</body>\n" ++
  "</html>\n"

/-- `url.Values.Get` on `r.URL.Query()`: the first value of `key` in the decoded query, `""` when it has none -/
def queryGet (query : List (String × String)) (key : String) : String :=
  match query.find? (·.1 == key) with
  | some (_, v) => v
  | none => ""

/-- `DefaultErrorHandler`: the page it writes for a request with this query -/
def defaultErrorHandler (query : List (String × String)) : String :=
  ⟨sprintf errorPageTemplate.toList [queryGet query "error", queryGet query "error_description"]⟩

/-- the template before its first verb -/
def errorPageHead : String :=
  "\n" ++
  "<html>\n" ++
  "<head>\n" ++
  "\t<title>An OAuth 2.0 Error Occurred</title>\n" ++
  "</head>\n" ++
  "<body>\n" ++
  "<h1>\n" ++
  "\tThe OAuth2 request resulted in an error.\n" ++
  "</h1>\n" ++
  "<ul>\n" ++
  "\t<li>Error: "

/-- the template between its two verbs -/
def errorPageMiddle : String :=
  "</li>\n" ++
  "\t<li>Description: "

/-- the template after its second verb -/
def errorPageTail : String :=
  "</li>\n" ++
  "</ul>\n" ++
  "<p>\n" ++
  "\tYou are seeing this default error page because the administrator has not set a dedicated error URL. \n" ++
  "\tIf you are an administrator, please read <a href=\"https://www.ory.sh/docs\">the guide</a> to understand what you\n" ++
  "\tneed to do. If you are a user, please contact the administrator.\n" ++
  "</p>\n" ++
  "</body>\n" ++
  "</html>\n"

theorem errorPageTemplate_eq :
    errorPageTemplate.toList =
      errorPageHead.toList ++ '%' :: 's' :: errorPageMiddle.toList ++ '%' :: 's' :: errorPageTail.toList := by
  rfl

theorem sprintf_cons {c : Char} (hc : c ≠ '%') (format : List Char) (args : List String) :
    sprintf (c :: format) args = c :: sprintf format args :=
  sprintf.eq_3 _ _ _ (fun _ _ _ h => absurd h hc) (fun _ h => absurd h hc)

theorem sprintf_verb {pre : List Char} (hpre : '%' ∉ pre) (format : List Char) (arg : String)
    (args : List String) : sprintf (pre ++ '%' :: 's' :: format) (arg :: args) = pre ++ arg.toList ++ sprintf format args := by
  induction pre with
  | nil => simp [sprintf]
  | cons c pre ih =>
    simp only [List.mem_cons, not_or] at hpre
    rw [List.cons_append, sprintf_cons (Ne.symm hpre.1), ih hpre.2]
    rfl

theorem sprintf_text {text : List Char} (htext : '%' ∉ text) : sprintf text [] = text := by
  induction text with
  | nil => rfl
  | cons c text ih =>
    simp only [List.mem_cons, not_or] at htext
    rw [sprintf_cons (Ne.symm htext.1), ih htext.2]

/-- **The values are spliced in verbatim.** -/
theorem defaultErrorHandler_eq (query : List (String × String)) :
    defaultErrorHandler query =
      errorPageHead ++ queryGet query "error" ++ errorPageMiddle ++ queryGet query "error_description" ++
        errorPageTail := by
  have hh : '%' ∉ errorPageHead.toList := by decide
  have hm : '%' ∉ errorPageMiddle.toList := by decide
  have ht : '%' ∉ errorPageTail.toList := by decide
  refine String.ext ?_
  simp only [defaultErrorHandler, errorPageTemplate_eq, List.append_assoc, List.cons_append, sprintf_verb hh,
    sprintf_verb hm, sprintf_text ht, String.data_append]
  rfl

/-! ## The markup of a page -/

/-- the states of the tokenizer: the data state, just after a `<`, and inside a tag (its text so far, last
character first) -/
inductive Lexer where
  | data
  | tagOpen
  | tag (text : List Char)
deriving DecidableEq, Repr

/-- a character after `<` that opens a tag: an ASCII letter (a start tag), `/` (an end tag), `!` (a comment or a
doctype) or `?` -/
def opensTag (c : Char) : Bool := c.isAlpha || c == '/' || c == '!' || c == '?'

/-- one character: the next state, and the tag the character closes -/
def Lexer.next : Lexer → Char → Lexer × Option String
  | .data, c => (if c = '<' then .tagOpen else .data, none)
  | .tagOpen, c => (if opensTag c then .tag [c] else if c = '<' then .tagOpen else .data, none)
  | .tag t, c => if c = '>' then (.data, some ⟨t.reverse⟩) else (.tag (c :: t), none)

/-- the tags of a text read from a state, in order -/
def tokens (st : Lexer) : List Char → List String
  | [] => []
  | c :: cs => (st.next c).2.toList ++ tokens (st.next c).1 cs

/-- the state a text leaves the tokenizer in -/
def Lexer.run (st : Lexer) (cs : List Char) : Lexer := cs.foldl (fun s c => (s.next c).1) st

/-- the markup of a page: its tags, in order -/
def markup (page : String) : List String := tokens .data page.toList

/-- **Run lemma.** -/
theorem tokens_append (st : Lexer) (xs ys : List Char) :
    tokens st (xs ++ ys) = tokens st xs ++ tokens (st.run xs) ys := by
  induction xs generalizing st with
  | nil => rfl
  | cons c xs ih => simp [tokens, Lexer.run, ih]

theorem markup_append {s : String} (hs : Lexer.data.run s.toList = .data) (t : String) :
    markup (s ++ t) = markup s ++ markup t := by
  rw [markup, String.toList, String.data_append, tokens_append, ← String.toList, hs]
  rfl

/-- a text with no `<` has no tag and leaves the data state as it found it -/
theorem tokens_of_no_lt {cs : List Char} (h : '<' ∉ cs) : tokens .data cs = [] ∧ Lexer.data.run cs = .data := by
  induction cs with
  | nil => exact ⟨rfl, rfl⟩
  | cons c cs ih =>
    simp only [List.mem_cons, not_or] at h
    have hc : Lexer.data.next c = (.data, none) := by simp [Lexer.next, Ne.symm h.1]
    simpa [tokens, Lexer.run, hc] using ih h.2

set_option maxRecDepth 4000 in
theorem run_errorPageHead : Lexer.data.run errorPageHead.toList = .data := by decide

theorem run_errorPageMiddle : Lexer.data.run errorPageMiddle.toList = .data := by decide

set_option maxRecDepth 4000 in
/-- the template's tags before its first verb -/
theorem markup_errorPageHead :
    markup errorPageHead = ["html", "head", "title", "/title", "/head", "body", "h1", "/h1", "ul", "li"] := by
  decide

theorem markup_errorPageMiddle : markup errorPageMiddle = ["/li", "li"] := by decide

set_option maxRecDepth 4000 in
/-- the template's tags after its second verb -/
theorem markup_errorPageTail :
    markup errorPageTail = ["/li", "/ul", "p", "a href=\"https://www.ory.sh/docs\"", "/a", "/p", "/body", "/html"] := by
  decide

/-- **The page's tags.** When neither value leaves the tokenizer inside a tag, the page's tags are the template's,
with each value's own tags inserted where it stands. -/
theorem markup_defaultErrorHandler {query : List (String × String)}
    (he : Lexer.data.run (queryGet query "error").toList = .data)
    (hd : Lexer.data.run (queryGet query "error_description").toList = .data) :
    markup (defaultErrorHandler query) =
      markup errorPageHead ++ markup (queryGet query "error") ++ markup errorPageMiddle ++
        markup (queryGet query "error_description") ++ markup errorPageTail := by
  rw [defaultErrorHandler_eq]
  simp only [String.append_assoc, markup_append run_errorPageHead, markup_append he,
    markup_append run_errorPageMiddle, markup_append hd, List.append_assoc]

theorem markup_defaultErrorHandler_of_no_lt {query : List (String × String)}
    (h : ∀ key ∈ ["error", "error_description"], '<' ∉ (queryGet query key).toList) :
    markup (defaultErrorHandler query) = markup errorPageHead ++ markup errorPageMiddle ++ markup errorPageTail := by
  have he := tokens_of_no_lt (h "error" (by simp))
  have hd := tokens_of_no_lt (h "error_description" (by simp))
  rw [markup_defaultErrorHandler he.2 hd.2, show markup (queryGet query "error") = [] from he.1,
    show markup (queryGet query "error_description") = [] from hd.1, List.append_nil, List.append_nil]

/-- **Values spliced in verbatim; plain-text values keep the markup.** For every query, the page is the template's
text with the value of `error` in place of the first verb, inside the first `li`, and the value of
`error_description` in place of the second, inside the second `li`, neither changed. Two requests whose values hold no
`<` get pages with the same tags: the template's own. -/
theorem defaultErrorHandler_markup (query query' : List (String × String))
    (h : ∀ key ∈ ["error", "error_description"], '<' ∉ (queryGet query key).toList)
    (h' : ∀ key ∈ ["error", "error_description"], '<' ∉ (queryGet query' key).toList) :
    (∀ q, defaultErrorHandler q =
      errorPageHead ++ queryGet q "error" ++ errorPageMiddle ++ queryGet q "error_description" ++ errorPageTail) ∧
    markup (defaultErrorHandler query) = markup errorPageHead ++ markup errorPageMiddle ++ markup errorPageTail ∧
    markup (defaultErrorHandler query) = markup (defaultErrorHandler query') :=
  ⟨defaultErrorHandler_eq, markup_defaultErrorHandler_of_no_lt h,
    (markup_defaultErrorHandler_of_no_lt h).trans (markup_defaultErrorHandler_of_no_lt h').symm⟩

theorem defaultErrorHandler_markup_plain :
    (∀ key ∈ ["error", "error_description"],
      '<' ∉ (queryGet [("error", "invalid_request"), ("error_description", "a > b")] key).toList) ∧
    (∀ key ∈ ["error", "error_description"], '<' ∉ (queryGet [] key).toList) ∧
    (∀ q, defaultErrorHandler q =
      errorPageHead ++ queryGet q "error" ++ errorPageMiddle ++ queryGet q "error_description" ++ errorPageTail) ∧
    markup (defaultErrorHandler [("error", "invalid_request"), ("error_description", "a > b")]) =
      markup errorPageHead ++ markup errorPageMiddle ++ markup errorPageTail ∧
    markup (defaultErrorHandler [("error", "invalid_request"), ("error_description", "a > b")]) =
      markup (defaultErrorHandler []) :=
  have h : ∀ key ∈ ["error", "error_description"],
      '<' ∉ (queryGet [("error", "invalid_request"), ("error_description", "a > b")] key).toList := by decide
  have h' : ∀ key ∈ ["error", "error_description"], '<' ∉ (queryGet [] key).toList := by decide
  ⟨h, h', defaultErrorHandler_markup _ _ h h'⟩

/-- `<script>alert(1)</script>` as the value of `error`: a `script` element inside the first `li` -/
theorem defaultErrorHandler_script :
    markup (defaultErrorHandler [("error", "<script>alert(1)</script>")]) =
      ["html", "head", "title", "/title", "/head", "body", "h1", "/h1", "ul", "li", "script", "/script", "/li", "li",
        "/li", "/ul", "p", "a href=\"https://www.ory.sh/docs\"", "/a", "/p", "/body", "/html"] ∧
    markup (defaultErrorHandler [("error", "<script>alert(1)</script>")]) ≠ markup (defaultErrorHandler []) := by
  have he : Lexer.data.run (queryGet [("error", "<script>alert(1)</script>")] "error").toList = .data := by decide
  have hd : Lexer.data.run (queryGet [("error", "<script>alert(1)</script>")] "error_description").toList = .data :=
    by decide
  have hs : markup "<script>alert(1)</script>" = ["script", "/script"] := by decide
  rw [markup_defaultErrorHandler he hd, markup_defaultErrorHandler_of_no_lt (by decide), markup_errorPageHead,
    markup_errorPageMiddle, markup_errorPageTail]
  simp only [queryGet, List.find?, hs]
  decide

end Hydra.OAuth2
