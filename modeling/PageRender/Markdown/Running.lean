import PageRender.Markdown.Inline.Autolink

/-!
# Running text

Texts that stand side by side are one text. Where an item of a list begins with a box in brackets it
is a task, and addresses of mail in running text are links.
-/

namespace PageRender.Markdown.Document

def joinTexts : Document → Document
  | .nil => .nil
  | .node part children rest =>
      match part, joinTexts rest with
      | .text content, .node (.text more) _ later => .node (.text (content ++ more)) .nil later
      | part, later => .node part (joinTexts children) later

/-- Reads the box that a text of a task begins with: whether it is ticked, and the text behind. -/
def taskBox? (text : List Char) : Option (Bool × List Char) :=
  match text.dropWhile isSpacing with
  | '[' :: mark :: ']' :: rest =>
      if !(mark == ' ' || mark == 'x' || mark == 'X') then none
      else match rest with
        | [] => some (mark != ' ', [])
        | c :: behind => if isSpacing c then some (mark != ' ', behind) else none
  | _ => none

/-- The task that an item is if it begins with a box: whether it is done, and the item without the
box. -/
def task? : Document → Option (Bool × Document)
  | .node .paragraph (.node (.text content) _ inner) rest =>
      (taskBox? content.toList).map fun (done, behind) =>
        let text := if behind.isEmpty then inner else .node (.text (.ofList behind)) .nil inner
        (done, .node .paragraph text rest)
  | _ => none

def hasTask : Document → Bool
  | .nil => false
  | .node (.task _) _ _ => true
  | .node _ _ rest => hasTask rest

/-- A document in which the items that begin with a box are tasks. -/
def markTasks : Document → Document
  | .nil => .nil
  | .node part children rest =>
      let inner := markTasks children
      match part with
      | .item =>
          match task? inner with
          | some (done, content) => .node (.task done) content (markTasks rest)
          | none => .node .item inner (markTasks rest)
      | .list start tight _ => .node (.list start tight (hasTask inner)) inner (markTasks rest)
      | part => .node part inner (markTasks rest)

/-- A document in which addresses of mail are links, except for those inside of links. -/
def linkMail : Document → Document
  | .nil => .nil
  | .node (.text content) _ rest =>
      .ofTrees (Autolink.splitMail (content.length + 1) 0 [] content.toList) ++ linkMail rest
  | .node part children rest =>
      .node part (if part.isLink then children else linkMail children) (linkMail rest)

end PageRender.Markdown.Document
