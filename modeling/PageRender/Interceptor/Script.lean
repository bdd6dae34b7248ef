import PageRender.Interceptor

/-!
# Scripted interceptors

Interceptors given as data: the conditions under which they apply and the actions they take on a
context, one after another. A script shows when it is asked and when it starts.
-/

namespace PageRender

/-- A condition on a hook and a context. -/
inductive Condition where
  | hookAmong (names : List String)
  | pagePath (path : String)
  | markdownContains (part : String)
  | htmlContains (part : String)
  | htmlPresent (present : Bool)
  | hasExtension (key : String)
  | never
  /-- Breaks off instead of answering. -/
  | panic (text : String)
  deriving Repr

/-- A step of a script. -/
inductive Action where
  | setMarkdown (text : String)
  | appendMarkdown (text : String)
  /-- Appends the hook's name in brackets to the source text. -/
  | tagMarkdown
  | setHtml (text : String)
  | appendHtml (text : String)
  /-- Appends the hook's name in a comment to the markup. -/
  | tagHtml
  | clearHtml
  | setQuery (text : String)
  | clearQuery
  /-- Sets the query unless it is blank, and clears it then. -/
  | withQuery (text : String)
  | setAnchor (text : String)
  | clearAnchor
  | setPath (text : String)
  | setExtension (key : String) (value : Value)
  | takeExtension (key : String)
  | moveExtension (source target : String)
  /-- Adds one to the number kept under a key; anything but a number counts as zero. -/
  | countExtension (key : String)
  /-- Keeps the source text and the markup under a key. -/
  | snapshotExtension (key : String)
  | fail (text : String)
  | panic (payload : Option String)
  /-- Lets others run; changes nothing. -/
  | pause
  deriving Repr

/-- An interceptor given as data. -/
structure Script where
  name : String
  conditions : List Condition := []
  actions : List Action := []
  deriving Repr

namespace Script

def isPart (part text : List Char) : Bool :=
  match text with
  | [] => part.isEmpty
  | _ :: rest => part.isPrefixOf text || isPart part rest

def holds (hook : Hook) (context : Context) : Condition → Reply Bool
  | .hookAmong names => Reply.pure (names.contains hook.name)
  | .pagePath path => Reply.pure (context.pagePath == path)
  | .markdownContains part => Reply.pure (isPart part.toList context.markdown.toList)
  | .htmlContains part => Reply.pure (isPart part.toList context.html.toList)
  | .htmlPresent present => Reply.pure (context.parsedHtml.isSome == present)
  | .hasExtension key => Reply.pure (context.extensions.contains key)
  | .never => Reply.pure false
  | .panic text => Reply.panic (some text)

/-- Whether conditions hold, looked at in order up to the first that does not. -/
def holdAll (hook : Hook) (context : Context) : List Condition → Reply Bool
  | [] => Reply.pure true
  | condition :: rest =>
      (holds hook context condition).bind fun answer =>
        if answer then holdAll hook context rest else Reply.pure false

/-- The number kept under a key, if it is one that can be counted on. -/
def counter (context : Context) (key : String) : Int :=
  match context.extension? key with
  | some (.number mantissa 0) => if mantissa < 0 then 0 else mantissa
  | _ => 0

def act (hook : Hook) (context : Context) : Action → Reply (Except InterceptorError Context)
  | .setMarkdown text => ok { context with markdown := text }
  | .appendMarkdown text => ok { context with markdown := context.markdown ++ text }
  | .tagMarkdown => ok { context with markdown := context.markdown ++ "[" ++ hook.name ++ "]" }
  | .setHtml text => ok { context with parsedHtml := some text }
  | .appendHtml text => ok { context with parsedHtml := some (context.html ++ text) }
  | .tagHtml => ok { context with parsedHtml := some (context.html ++ "<!--" ++ hook.name ++ "-->") }
  | .clearHtml => ok { context with parsedHtml := none }
  | .setQuery text => ok { context with highlightQuery := some text }
  | .clearQuery => ok { context with highlightQuery := none }
  | .withQuery text => ok (context.withHighlightQuery text)
  | .setAnchor text => ok { context with domAnchor := some text }
  | .clearAnchor => ok { context with domAnchor := none }
  | .setPath text => ok { context with pagePath := text }
  | .setExtension key value => ok (context.setExtension key value)
  | .takeExtension key => ok (context.takeExtension key).2
  | .moveExtension source target =>
      match context.takeExtension source with
      | (some value, rest) => ok (rest.setExtension target value)
      | (none, _) => ok context
  | .countExtension key => ok (context.setExtension key (.number (counter context key + 1) 0))
  | .snapshotExtension key =>
      let html := match context.parsedHtml with
        | some markup => Value.text markup
        | none => Value.null
      ok (context.setExtension key (.list [.text context.markdown, html]))
  | .fail text => Reply.pure (.error (.failed text))
  | .panic payload => Reply.panic payload
  | .pause => ok context
where
  ok (context : Context) : Reply (Except InterceptorError Context) :=
    Reply.pure (.ok context)

/-- Takes actions one after another, up to the first that fails. -/
def actAll (hook : Hook) : List Action → Context → Reply (Except InterceptorError Context)
  | [], context => Reply.pure (.ok context)
  | action :: rest, context =>
      (act hook context action).bind fun outcome =>
        match outcome with
        | .ok next => actAll hook rest next
        | .error error => Reply.pure (.error error)

def interceptor (script : Script) : Interceptor where
  name := script.name
  isApplicable hook context :=
    (holdAll hook context script.conditions).bind fun answer =>
      ⟨[.mark (.asked hook script.name answer)], .returned answer⟩
  process hook context :=
    (Reply.tell (.mark (.started hook script.name))).bind fun _ =>
      actAll hook script.actions context

end Script

end PageRender
