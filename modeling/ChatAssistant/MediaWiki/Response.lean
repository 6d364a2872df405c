import ChatAssistant.Encyclopedia.Article
import ChatAssistant.Json.Decoder
import ChatAssistant.Url.Path

/-!
# Answers of a wiki

What a wiki has on a title: pages by their numbers, of which some stand for titles that have no
article. Its answer is a record of records in JSON.
-/

namespace ChatAssistant
namespace MediaWiki

/-- What a wiki has on a title. -/
structure Page where
  title : Text
  /-- The introduction. -/
  intro : Option Text
  /-- The address of the page. -/
  url : Option Text
  /-- Nobody wrote this page. -/
  isMissing : Bool
  /-- No page can have this title. -/
  isInvalid : Bool
  deriving DecidableEq, Repr

abbrev Pages := List (Text × Page)

/-! ## Decoding -/

/-- The arrays and objects that a mark on a page may be deep, in an answer that may be 127 deep. -/
def markDepth : Nat := 123

/-- A mark, which may hold anything. -/
def mark? (field : Option Json) : Option Bool :=
  (Json.optional? (Json.orNull? (Json.toAny? markDepth)) none field).map (·.isSome)

def Page.ofJson? (v : Json) : Option Page := do
  match ← Json.fields? ["title".toList, "extract".toList, "fullurl".toList, "missing".toList,
      "invalid".toList] v with
  | [title, intro, url, missing, invalid] =>
    return {
      title := ← Json.optional? Json.toText? [] title
      intro := ← Json.optional? (Json.orNull? Json.toText?) none intro
      url := ← Json.optional? (Json.orNull? Json.toText?) none url
      isMissing := ← mark? missing
      isInvalid := ← mark? invalid }
  | _ => none

/-- Decodes the part of an answer that holds the pages. -/
def pagesPart? (v : Json) : Option Pages := do
  match ← Json.fields? ["pages".toList] v with
  | [pages] => Json.optional? (Json.toMembers? Page.ofJson?) [] pages
  | _ => none

def pagesOfJson? (v : Json) : Option Pages := do
  match ← Json.fields? ["query".toList] v with
  | [query] => return (← Json.optional? (Json.orNull? pagesPart?) none query).getD []
  | _ => none

def pagesOfBody? (body : Text) : Option Pages := do pagesOfJson? (← Json.parse? body)

/-! ## Articles -/

/-- The number of a page that stands for no article. -/
def noNumber : Text := "-1".toList

def isArticle (entry : Text × Page) : Bool :=
  entry.1 != noNumber && !entry.2.isMissing && !entry.2.isInvalid

/-- The address of the page of a title below `base`. -/
def pageLink (base : Url) (title : Text) : Text :=
  (base.child (title.map fun c => if c = ' ' then '_' else c)).toText

def Page.article (base : Url) (page : Page) : Encyclopedia.Article :=
  ⟨page.title, Text.trim (page.intro.getD []), page.url.getD (pageLink base page.title)⟩

/-- The article among pages, taken in the order in which they are given. -/
def articleOf? (base : Url) (pages : Pages) : Option Encyclopedia.Article :=
  (pages.find? isArticle).map fun entry => entry.2.article base

end MediaWiki
end ChatAssistant
