namespace Schematron

def version : String := "1.0.0"

end Schematron
