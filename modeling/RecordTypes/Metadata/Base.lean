import RecordTypes.Metadata.Field

/-! A base and its tables. -/

namespace RecordTypes

inductive ViewType where
  | grid
  | form
  | calendar
  | gallery
  | kanban
  | block
  | levels
  | timeline
  deriving DecidableEq

instance : Named ViewType where
  all := [.grid, .form, .calendar, .gallery, .kanban, .block, .levels, .timeline]
  name
    | .grid => "grid"
    | .form => "form"
    | .calendar => "calendar"
    | .gallery => "gallery"
    | .kanban => "kanban"
    | .block => "block"
    | .levels => "levels"
    | .timeline => "timeline"

inductive Permission where
  | read
  | comment
  | edit
  | create
  deriving DecidableEq

instance : Named Permission where
  all := [.read, .comment, .edit, .create]
  name
    | .read => "read"
    | .comment => "comment"
    | .edit => "edit"
    | .create => "create"

structure View where
  id : String
  name : String
  type : ViewType

structure Table where
  id : String
  name : String
  primaryFieldId : String
  description : Option String
  fields : List Field
  views : List View

structure Base where
  id : String
  name : String
  permission : Permission

structure Metadata where
  base : Base
  tables : List Table

end RecordTypes
