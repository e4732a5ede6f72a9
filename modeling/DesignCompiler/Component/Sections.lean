import DesignCompiler.Component.Script
import DesignCompiler.Component.StyleSheet
import DesignCompiler.Component.Template
import DesignCompiler.Design.Reading

set_option autoImplicit false

namespace DesignCompiler.Component

structure Sections where
  template : String
  script : String
  style : String
deriving DecidableEq, Repr

def Sections.document (s : Sections) : String :=
  "<template>\n" ++ s.template ++ "\n</template>\n\n<script setup lang=\"ts\">\n" ++ s.script ++
    "\n</script>\n\n<style lang=\"scss\" scoped>\n" ++ s.style ++ "\n</style>"

/-- The sections of a design. The component's name is not part of them. -/
def compile (root : Node) (_name : String) : Sections where
  template := Template.render root
  script := Script.render root
  style := StyleSheet.render root

def generate (root : Node) (name : String) : String := (compile root name).document

def generateFromText (text name : String) : Except DecodeError String := do
  let root ← Node.ofText text
  return generate root name

def version : String := "0.1.0"

end DesignCompiler.Component
