import Newsstand.Feed.Basic
import Newsstand.Proofs.Xml.Elements
import Newsstand.Text.Blank

/-!
# What a tree tells of a feed

The title, the items and the root of a feed as they are read off a finished
tree: by the elements in document order, the text below them and the elements
around them.  Nothing here is known to the scan, which never sees a tree.
-/

namespace Newsstand.Feed

open Newsstand.Text Newsstand.Xml

/-- The text below the first element of a name. -/
def firstText? (name : List Char) (nodes : List Node) : Option String :=
  (firstContent? name nodes).map fun content =>
    String.ofList (textBelow content)

/-- The title of a feed, if it has one. -/
def titleOf? (nodes : List Node) : Option String :=
  (firstText? "title".toList nodes).map trim

/-- A field of an item, which is empty if no element in the item has its name.
-/
def fieldOf (name : String) (content : List Node) : String :=
  ((firstText? name.toList content).map trim).getD ""

/-- The item that an element with some content stands for. -/
def itemOf (content : List Node) : Item :=
  ⟨fieldOf "title" content, fieldOf "link" content,
    fieldOf "description" content⟩

/-- The items of a feed, which are those that stand in no other item. -/
def itemsOf (nodes : List Node) : List Item :=
  (outermostContents "item".toList nodes).map itemOf

/-- The local name of the root element. -/
def rootName? (nodes : List Node) : Option (List Char) :=
  (elementsIn [] nodes).head?.map (·.tag.localName)

/-! ## Nodes one after another -/

section Append

variable (name : List Char) (nodes more : List Node)

theorem firstText?_append :
    firstText? name (nodes ++ more) =
      (firstText? name nodes).or (firstText? name more) := by
  rw [firstText?, firstContent?_append, Option.map_or]
  rfl

theorem itemsOf_append :
    itemsOf (nodes ++ more) = itemsOf nodes ++ itemsOf more := by
  rw [itemsOf, outermostContents_append, List.map_append]
  rfl

theorem rootName?_append :
    rootName? (nodes ++ more) = (rootName? nodes).or (rootName? more) := by
  rw [rootName?, elementsIn_append, List.head?_append, Option.map_or]
  rfl

end Append

/-! ## Single nodes -/

section Single

variable (name cs : List Char) (tag : Tag) (content : List Node)

theorem firstText?_text : firstText? name [.text cs] = none := rfl

theorem itemsOf_text : itemsOf [.text cs] = [] := rfl

theorem rootName?_text : rootName? [.text cs] = none := rfl

theorem firstText?_element :
    firstText? name [.element tag content] =
      if tag.name = name then some (String.ofList (textBelow content))
      else firstText? name content := by
  rw [firstText?, firstContent?_element]
  split <;> rfl

theorem itemsOf_element :
    itemsOf [.element tag content] =
      if tag.name = "item".toList then [itemOf content]
      else itemsOf content := by
  rw [itemsOf, outermostContents_element]
  split <;> rfl

theorem rootName?_element :
    rootName? [.element tag content] = some tag.localName := rfl

end Single

end Newsstand.Feed
