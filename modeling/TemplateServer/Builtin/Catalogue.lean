import TemplateServer.Builtin.Basic

/-!
The catalogue of builtin functions, in the order in which completion offers them, and the
look-up of a name in it.
-/

namespace TemplateServer

namespace Builtin

def stringFunctions : List Builtin :=
  [⟨"length", [⟨"str", "string"⟩], .number,
      "Returns the length of a string."⟩,
    ⟨"concat", [⟨"...strings", "string"⟩], .string,
      "Combine two or more strings and return the combined string."⟩,
    ⟨"replace", [⟨"text", "string"⟩, ⟨"oldText", "string"⟩, ⟨"newText", "string"⟩], .string,
      "Replace a substring with the specified string, and return the updated string. Case "
        ++ "sensitive."⟩,
    ⟨"replaceIgnoreCase",
      [⟨"text", "string"⟩, ⟨"oldText", "string"⟩, ⟨"newText", "string"⟩], .string,
      "Replace a substring with the specified string, and return the updated string. Case "
        ++ "in-sensitive."⟩,
    ⟨"split", [⟨"text", "string"⟩, ⟨"delimiter", "string"⟩], .array,
      "Returns an array that contains substrings based on the delimiter specified."⟩,
    ⟨"substring", [⟨"text", "string"⟩, ⟨"startIndex", "number"⟩, ⟨"length?", "number"⟩], .string,
      "Returns characters from a string. Substring(sourceString, startPos, endPos). startPos "
        ++ "cannot be less than 0. endPos greater than source strings length will be taken as "
        ++ "the max length of the string."⟩,
    ⟨"toLower", [⟨"text", "string"⟩], .string,
      "Convert a string to all lower case characters."⟩,
    ⟨"toUpper", [⟨"text", "string"⟩], .string,
      "Convert a string to all upper case characters."⟩,
    ⟨"trim", [⟨"text", "string"⟩], .string,
      "Remove leading and trailing white spaces from a string."⟩,
    ⟨"addOrdinal", [⟨"num", "number"⟩], .string,
      "Return the ordinal number of the input number."⟩,
    ⟨"endsWith", [⟨"text", "string"⟩, ⟨"value", "string"⟩], .boolean,
      "Check whether a string ends with a specific substring. Return true if the substring is "
        ++ "found, or return false if not found. This function is case-insensitive."⟩,
    ⟨"startsWith", [⟨"text", "string"⟩, ⟨"value", "string"⟩], .boolean,
      "Check whether a string starts with a specific substring. Return true if the substring is "
        ++ "found, or return false if not found. This function is case-insensitive."⟩,
    ⟨"countWord", [⟨"text", "string"⟩], .number,
      "Returns the number of words in the input string."⟩,
    ⟨"lastIndexOf", [⟨"text", "string"⟩, ⟨"value", "string"⟩], .number,
      "Returns the index of the last occurrence of a specified value in a string or array. If "
        ++ "the value is not found, the function returns -1."⟩,
    ⟨"indexOf", [⟨"text", "string"⟩, ⟨"value", "string"⟩], .number,
      "Returns the index of the first occurrence of a specified value in a string or array. If "
        ++ "the value is not found, the function returns -1."⟩,
    ⟨"newGuid", [], .string,
      "Return new guid string."⟩,
    ⟨"eol", [], .string,
      "Return the end of line (EOL) sequence text."⟩,
    ⟨"sentenceCase", [⟨"text", "string"⟩], .string,
      "Capitalize the first letter of the first word in a string, and lowercase the remaining "
        ++ "letters."⟩,
    ⟨"titleCase", [⟨"text", "string"⟩], .string,
      "Capitalize the first letter of each word in a string, and lowercase the remaining "
        ++ "letters."⟩,
    ⟨"reverse", [⟨"value", "string | array"⟩], .object,
      "Reverse the order of the elements in a string or array."⟩]

def collectionFunctions : List Builtin :=
  [⟨"count", [⟨"collection", "string | array"⟩], .number,
      "Returns the number of items in the collection."⟩,
    ⟨"contains", [⟨"collection", "string | array | map"⟩, ⟨"value", "string | object"⟩], .boolean,
      "Works to find an item in a string or to find an item in an array or to find a parameter "
        ++ "in a complex object. E.g. contains('hello world', 'hello'); "
        ++ "contains(createArray('1','2'), '1'); contains(json(\"\x7b'foo':'bar'\x7d\"), "
        ++ "'foo')."⟩,
    ⟨"empty", [⟨"collection", "any"⟩], .boolean,
      "Check if the collection is empty."⟩,
    ⟨"first", [⟨"collection", "string | array"⟩], .object,
      "Returns the first item from the collection."⟩,
    ⟨"join",
      [⟨"collection", "array"⟩, ⟨"delimiter", "string"⟩, ⟨"lastDelimiter?", "string"⟩], .string,
      "Return a string that has all the items from an array and has each character separated by "
        ++ "a delimiter."⟩,
    ⟨"last", [⟨"collection", "string | array"⟩], .object,
      "Returns the last item from the collection."⟩,
    ⟨"foreach",
      [⟨"collection", "array | object"⟩, ⟨"iteratorName", "string"⟩, ⟨"function", "any"⟩], .array,
      "Operate on each element and return the new collection."⟩,
    ⟨"select",
      [⟨"collection", "array | object"⟩, ⟨"iteratorName", "string"⟩, ⟨"function", "any"⟩], .array,
      "Operate on each element and return the new collection of transformed elements."⟩,
    ⟨"where",
      [⟨"collection", "array | object"⟩, ⟨"iteratorName", "string"⟩,
        ⟨"condition", "boolean"⟩], .array,
      "Filter on each element and return the new collection of filtered elements which match a "
        ++ "specific condition."⟩,
    ⟨"union", [⟨"...collections", "array"⟩], .array,
      "Return a collection that has all the items from the specified collections."⟩,
    ⟨"intersection", [⟨"...collections", "array"⟩], .array,
      "Return a collection that has only the common items across the specified collections."⟩,
    ⟨"skip", [⟨"array", "array"⟩, ⟨"length", "number"⟩], .array,
      "Remove items from the front of a collection, and return all the other items."⟩,
    ⟨"take", [⟨"array", "array | string"⟩, ⟨"length", "number"⟩], .object,
      "Return items from the front of a collection."⟩,
    ⟨"subArray", [⟨"array", "array"⟩, ⟨"startIndex", "number"⟩, ⟨"endIndex?", "number"⟩], .array,
      "Returns a sub-array from specified start and end position. Index values are "
        ++ "case-insensitive."⟩,
    ⟨"sortBy", [⟨"array", "array"⟩, ⟨"property?", "string"⟩], .array,
      "Sort elements in the collection with ascending order and return the sorted collection."⟩,
    ⟨"sortByDescending", [⟨"array", "array"⟩, ⟨"property?", "string"⟩], .array,
      "Sort elements in the collection with descending order and return the sorted collection."⟩,
    ⟨"indicesAndValues", [⟨"collection", "array | object"⟩], .array,
      "Turned an array or object into an array of objects with index (current index) and value "
        ++ "properties."⟩,
    ⟨"flatten", [⟨"collection", "array"⟩, ⟨"depth?", "number"⟩], .array,
      "Flatten an array into non-array values. You can optionally set the maximum depth to "
        ++ "flatten to."⟩,
    ⟨"unique", [⟨"collection", "array"⟩], .array,
      "Remove all duplicates from an array."⟩,
    ⟨"any",
      [⟨"collection", "array | object"⟩, ⟨"iteratorName", "string"⟩,
        ⟨"condition", "boolean"⟩], .boolean,
      "Determine whether any element of a sequence satisfies a condition."⟩,
    ⟨"all",
      [⟨"collection", "array | object"⟩, ⟨"iteratorName", "string"⟩,
        ⟨"condition", "boolean"⟩], .boolean,
      "Determine whether all elements of a sequence satisfy a condition."⟩]

def logicalFunctions : List Builtin :=
  [⟨"and", [⟨"...expressions", "boolean"⟩], .boolean,
      "Logical and. Returns true if all specified expressions evaluate to true."⟩,
    ⟨"equals", [⟨"value1", "any"⟩, ⟨"value2", "any"⟩], .boolean,
      "Comparison equal. Returns true if specified values are equal."⟩,
    ⟨"greater", [⟨"value1", "number | string"⟩, ⟨"value2", "number | string"⟩], .boolean,
      "Comparison greater than. Returns true if the first value is greater than the second."⟩,
    ⟨"greaterOrEquals", [⟨"value1", "number | string"⟩, ⟨"value2", "number | string"⟩], .boolean,
      "Comparison greater than or equal to. greaterOrEquals(exp1, exp2). Returns true if the "
        ++ "first value is greater than or equal to the second."⟩,
    ⟨"if", [⟨"condition", "boolean"⟩, ⟨"trueValue", "any"⟩, ⟨"falseValue", "any"⟩], .object,
      "if(exp, valueIfTrue, valueIfFalse)."⟩,
    ⟨"less", [⟨"value1", "number | string"⟩, ⟨"value2", "number | string"⟩], .boolean,
      "Comparison less than operation. Returns true if the first value is less than the second."⟩,
    ⟨"lessOrEquals", [⟨"value1", "number | string"⟩, ⟨"value2", "number | string"⟩], .boolean,
      "Comparison less than or equal operation. Returns true if the first value is less than or "
        ++ "equal to the second."⟩,
    ⟨"not", [⟨"expression", "boolean"⟩], .boolean,
      "Logical not operator. Returns true if the expression is false."⟩,
    ⟨"or", [⟨"...expressions", "boolean"⟩], .boolean,
      "Logical or operation. Returns true if at least one expression is true or all are false."⟩,
    ⟨"exists", [⟨"expression", "any"⟩], .boolean,
      "Evaluates an expression for truthiness."⟩]

def conversionFunctions : List Builtin :=
  [⟨"float", [⟨"value", "string"⟩], .number,
      "Return floating point representation of the specified string or the string itself if "
        ++ "conversion is not possible."⟩,
    ⟨"int", [⟨"value", "string"⟩], .number,
      "Return integer representation of the specified string or the string itself if conversion "
        ++ "is not possible."⟩,
    ⟨"string", [⟨"value", "any"⟩, ⟨"locale?", "string"⟩], .string,
      "Return string version of the specified value."⟩,
    ⟨"bool", [⟨"value", "any"⟩], .boolean,
      "Return Boolean representation of the specified string. bool('true'), bool(0)."⟩,
    ⟨"createArray", [⟨"...objects", "any"⟩], .array,
      "Create an array from multiple inputs."⟩,
    ⟨"array", [⟨"value", "string"⟩], .array,
      "Return an array from a single specified input."⟩,
    ⟨"json", [⟨"value", "string | xml"⟩], .object,
      "Return the JavaScript Object Notation (JSON) type value or object of a string or XML."⟩,
    ⟨"xml", [⟨"xmlStr", "string"⟩], .object,
      "Return the XML version for a string that contains a JSON object."⟩,
    ⟨"base64", [⟨"value", "string | byteArray"⟩], .string,
      "Return the base64-encoded version of a string or byte array."⟩,
    ⟨"base64ToBinary", [⟨"value", "string"⟩], .object,
      "Return the binary version of a base64-encoded string."⟩,
    ⟨"base64ToString", [⟨"value", "string"⟩], .string,
      "Return the string version of a base64-encoded string."⟩,
    ⟨"binary", [⟨"value", "string"⟩], .object,
      "Return the binary version of an input value."⟩,
    ⟨"dataUri", [⟨"value", "string"⟩], .string,
      "Return the URI for an input value."⟩,
    ⟨"dataUriToBinary", [⟨"value", "string"⟩], .object,
      "Return the binary version of a data URI."⟩,
    ⟨"dataUriToString", [⟨"value", "string"⟩], .string,
      "Return the string version of a data URI."⟩,
    ⟨"uriComponent", [⟨"value", "string"⟩], .string,
      "Return the binary version of a URI component."⟩,
    ⟨"uriComponentToString", [⟨"value", "string"⟩], .string,
      "Return the string version of a URI-encoded string."⟩,
    ⟨"formatNumber",
      [⟨"number", "number"⟩, ⟨"precision", "number"⟩, ⟨"locale?", "string"⟩], .string,
      "Format number into required decimal numbers."⟩,
    ⟨"jsonStringify", [⟨"value", "object"⟩], .string,
      "Return the JSON string of a value."⟩,
    ⟨"stringOrValue", [⟨"value", "string"⟩], .object,
      "Wrap string interpolation to get the real value. For example, "
        ++ "stringOrValue('$\x7b1\x7d') returns the number 1, while stringOrValue('$\x7b1\x7d "
        ++ "item') returns the string \"1 item\"."⟩]

def mathFunctions : List Builtin :=
  [⟨"abs", [⟨"number", "number"⟩], .number,
      "Returns the absolute value of the specified number."⟩,
    ⟨"add", [⟨"num1", "number"⟩, ⟨"num2", "number"⟩], .number,
      "Mathematical addition. Accepts two parameters. Returns the sum of the two values."⟩,
    ⟨"div", [⟨"dividend", "number"⟩, ⟨"divisor", "number"⟩], .number,
      "Mathematical division. Returns the quotient of the two numbers."⟩,
    ⟨"max", [⟨"...numbers", "number"⟩], .number,
      "Returns the largest value from a collection."⟩,
    ⟨"min", [⟨"...numbers", "number"⟩], .number,
      "Returns the smallest value from a collection."⟩,
    ⟨"mod", [⟨"dividend", "number"⟩, ⟨"divisor", "number"⟩], .number,
      "Returns remainder from dividing two numbers."⟩,
    ⟨"mul", [⟨"multiplicand1", "number"⟩, ⟨"multiplicand2", "number"⟩], .number,
      "Mathematical multiplication. Returns the product of multiplying the two numbers."⟩,
    ⟨"rand", [⟨"minValue", "number"⟩, ⟨"maxValue", "number"⟩], .number,
      "Returns a random number between specified min and max value. rand(<minValue>, "
        ++ "<maxValue>)."⟩,
    ⟨"sqrt", [⟨"number", "number"⟩], .number,
      "Returns the square root of the specified number."⟩,
    ⟨"sub", [⟨"minuend", "number"⟩, ⟨"subtrahend", "number"⟩], .number,
      "Mathematical subtraction. Returns the difference of the two numbers."⟩,
    ⟨"sum", [⟨"array", "array"⟩], .number,
      "Returns the sum of numbers in an array."⟩,
    ⟨"range", [⟨"startIndex", "number"⟩, ⟨"count", "number"⟩], .array,
      "Return an integer array that starts from a specified integer with the given number of "
        ++ "items."⟩,
    ⟨"exp", [⟨"base", "number"⟩, ⟨"exponent", "number"⟩], .number,
      "Return exponentiation of one number to another."⟩,
    ⟨"average", [⟨"array", "array"⟩], .number,
      "Return the average of a numeric array."⟩,
    ⟨"floor", [⟨"number", "number"⟩], .number,
      "Return the largest integral value less than or equal to the specified number."⟩,
    ⟨"ceiling", [⟨"number", "number"⟩], .number,
      "Return the smallest integral value greater than or equal to the specified number."⟩,
    ⟨"round", [⟨"number", "number"⟩, ⟨"precision?", "number"⟩], .number,
      "Round a value to the nearest integer or to the specified number of fractional digits."⟩]

def dateFunctions : List Builtin :=
  [⟨"addDays", [⟨"timestamp", "string"⟩, ⟨"days", "number"⟩, ⟨"format?", "string"⟩], .string,
      "Add number of specified days to a given timestamp."⟩,
    ⟨"addHours", [⟨"timestamp", "string"⟩, ⟨"hours", "number"⟩, ⟨"format?", "string"⟩], .string,
      "Add specified number of hours to a given timestamp."⟩,
    ⟨"addMinutes",
      [⟨"timestamp", "string"⟩, ⟨"minutes", "number"⟩, ⟨"format?", "string"⟩], .string,
      "Add specified number of minutes to a given timestamp."⟩,
    ⟨"addSeconds",
      [⟨"timestamp", "string"⟩, ⟨"seconds", "number"⟩, ⟨"format?", "string"⟩], .string,
      "Add specified number of seconds to a given timestamp."⟩,
    ⟨"dayOfMonth", [⟨"timestamp", "string"⟩], .number,
      "Returns day of month for a given timestamp or timex expression."⟩,
    ⟨"dayOfWeek", [⟨"timestamp", "string"⟩], .number,
      "Returns day of the week for a given timestamp."⟩,
    ⟨"dayOfYear", [⟨"timestamp", "string"⟩], .number,
      "Returns day of the year for a given timestamp."⟩,
    ⟨"formatDateTime",
      [⟨"timestamp", "string"⟩, ⟨"format?", "string"⟩, ⟨"locale?", "string"⟩], .string,
      "Return a timestamp in the specified format."⟩,
    ⟨"formatEpoch", [⟨"epoch", "number"⟩, ⟨"format?", "string"⟩, ⟨"locale?", "string"⟩], .string,
      "Return a timestamp in the specified format from UNIX time (also know as Epoch time, "
        ++ "POSIX time, UNIX Epoch time)."⟩,
    ⟨"formatTicks", [⟨"ticks", "number"⟩, ⟨"format?", "string"⟩, ⟨"locale?", "string"⟩], .string,
      "Return a timestamp in the specified format from ticks."⟩,
    ⟨"subtractFromTime",
      [⟨"timestamp", "string"⟩, ⟨"interval", "number"⟩, ⟨"timeUnit", "string"⟩,
        ⟨"format?", "string"⟩], .string,
      "Subtract a number of time units from a timestamp."⟩,
    ⟨"utcNow", [⟨"format?", "string"⟩], .string,
      "Returns current timestamp as string."⟩,
    ⟨"dateReadBack", [⟨"currentDate", "string"⟩, ⟨"targetDate", "string"⟩], .string,
      "Uses the date-time library to provide a date readback. dateReadBack(currentDate, "
        ++ "targetDate). E.g. dateReadBack('2016/05/30,'2016/05/23')=>\"Yesterday\"."⟩,
    ⟨"month", [⟨"timestamp", "string"⟩], .number,
      "Returns the month of given timestamp."⟩,
    ⟨"date", [⟨"timestamp", "string"⟩], .string,
      "Returns date for a given timestamp."⟩,
    ⟨"year", [⟨"timestamp", "string"⟩], .number,
      "Returns year for the given timestamp."⟩,
    ⟨"getTimeOfDay", [⟨"timestamp", "string"⟩], .string,
      "Returns time of day for a given timestamp (midnight = 12AM, morning = 12:01AM – 11:59PM, "
        ++ "noon = 12PM, afternoon = 12:01PM -05:59PM, evening = 06:00PM – 10:00PM, night = "
        ++ "10:01PM – 11:59PM)."⟩,
    ⟨"getFutureTime",
      [⟨"interval", "number"⟩, ⟨"timeUnit", "string"⟩, ⟨"format?", "string"⟩], .string,
      "Returns current timestamp plus specified time units."⟩,
    ⟨"getPastTime",
      [⟨"interval", "number"⟩, ⟨"timeUnit", "string"⟩, ⟨"format?", "string"⟩], .string,
      "Returns current timestamp minus specified time units."⟩,
    ⟨"addToTime",
      [⟨"timestamp", "string"⟩, ⟨"interval", "number"⟩, ⟨"timeUnit", "string"⟩,
        ⟨"format?", "string"⟩], .string,
      "Add x number of time units to a timestamp."⟩,
    ⟨"convertFromUTC",
      [⟨"timestamp", "string"⟩, ⟨"destinationTimeZone", "string"⟩,
        ⟨"format?", "string"⟩], .string,
      "Convert a timestamp from Universal Time Coordinated (UTC) to the target time zone."⟩,
    ⟨"convertToUTC",
      [⟨"timestamp", "string"⟩, ⟨"sourceTimeZone", "string"⟩, ⟨"format?", "string"⟩], .string,
      "Convert a timestamp to Universal Time Coordinated (UTC) from the source time zone."⟩,
    ⟨"startOfDay", [⟨"timestamp", "string"⟩, ⟨"format?", "string"⟩], .string,
      "Return the start of the day for a timestamp."⟩,
    ⟨"startOfHour", [⟨"timestamp", "string"⟩, ⟨"format?", "string"⟩], .string,
      "Return the start of the hour for a timestamp."⟩,
    ⟨"startOfMonth", [⟨"timestamp", "string"⟩, ⟨"format?", "string"⟩], .string,
      "Return the start of the month for a timestamp."⟩,
    ⟨"ticks", [⟨"timestamp", "string"⟩], .number,
      "Return the ticks property value of a specified timestamp."⟩,
    ⟨"ticksToDays", [⟨"ticks", "number"⟩], .number,
      "Convert a ticks property value to the number of days."⟩,
    ⟨"ticksToHours", [⟨"ticks", "number"⟩], .number,
      "Convert a ticks property value to the number of hours."⟩,
    ⟨"ticksToMinutes", [⟨"ticks", "number"⟩], .number,
      "Convert a ticks property value to the number of minutes."⟩,
    ⟨"dateTimeDiff", [⟨"timestamp1", "string"⟩, ⟨"timestamp2", "string"⟩], .number,
      "Return the difference in ticks between two timestamps."⟩,
    ⟨"getNextViableDate", [⟨"timex", "string"⟩, ⟨"timezone?", "string"⟩], .string,
      "Return the next viable date of a timex expression based on the current date and an "
        ++ "optionally specified timezone."⟩,
    ⟨"getPreviousViableDate", [⟨"timex", "string"⟩, ⟨"timezone?", "string"⟩], .string,
      "Return the previous viable date of a timex expression based on the current date and an "
        ++ "optionally specified timezone."⟩,
    ⟨"getNextViableTime", [⟨"timex", "string"⟩, ⟨"timezone?", "string"⟩], .string,
      "Return the next viable time of a timex expression based on the current time and an "
        ++ "optionally specified timezone."⟩,
    ⟨"getPreviousViableTime", [⟨"timex", "string"⟩, ⟨"timezone?", "string"⟩], .string,
      "Return the previous viable time of a timex expression based on the current time and an "
        ++ "optionally specified timezone."⟩,
    ⟨"isDefinite", [⟨"timex", "string | object"⟩], .boolean,
      "Return true if the TimexProperty or timex expression refers to a valid date. Valid dates "
        ++ "contain the month, dayOfMonth and year."⟩,
    ⟨"isTime", [⟨"timex", "string | object"⟩], .boolean,
      "Return true if the TimexProperty or timex expression refers to a valid time. Valid time "
        ++ "contains hours, minutes and seconds."⟩,
    ⟨"isDuration", [⟨"timex", "string | object"⟩], .boolean,
      "Return true if the TimexProperty or timex expression refers to a valid duration."⟩,
    ⟨"isDate", [⟨"timex", "string | object"⟩], .boolean,
      "Return true if the TimexProperty or timex expression refers to a valid date. Valid dates "
        ++ "contain the month and dayOfMonth, or contain the dayOfWeek."⟩,
    ⟨"isTimeRange", [⟨"timex", "string | object"⟩], .boolean,
      "Return true if the TimexProperty or timex expression refers to a valid time range. Valid "
        ++ "time ranges contain partOfDay."⟩,
    ⟨"isDateRange", [⟨"timex", "string | object"⟩], .boolean,
      "Return true if the TimexProperty or timex expression refers to a valid date range."⟩,
    ⟨"isPresent", [⟨"timex", "string | object"⟩], .boolean,
      "Return true if the TimexProperty or timex expression refers to the present."⟩]

def addressFunctions : List Builtin :=
  [⟨"uriHost", [⟨"uri", "string"⟩], .string,
      "Returns the host value of a unified resource identifier (URI)."⟩,
    ⟨"uriPath", [⟨"uri", "string"⟩], .string,
      "Returns the path value of a unified resource identifier (URI)."⟩,
    ⟨"uriPathAndQuery", [⟨"uri", "string"⟩], .string,
      "Returns the path and query values of a unified resource identifier (URI)."⟩,
    ⟨"uriPort", [⟨"uri", "string"⟩], .number,
      "Returns the port value of a unified resource identifier (URI)."⟩,
    ⟨"uriQuery", [⟨"uri", "string"⟩], .string,
      "Returns the query value of a unified resource identifier (URI)."⟩,
    ⟨"uriScheme", [⟨"uri", "string"⟩], .string,
      "Returns the scheme value of a unified resource identifier (URI)."⟩]

def objectFunctions : List Builtin :=
  [⟨"addProperty", [⟨"object", "object"⟩, ⟨"property", "string"⟩, ⟨"value", "any"⟩], .object,
      "Add a property and its value, or name-value pair, to a JSON object, and return the "
        ++ "updated object. If the object already exists at runtime the function throws an "
        ++ "error."⟩,
    ⟨"removeProperty", [⟨"object", "object"⟩, ⟨"property", "string"⟩], .object,
      "Remove a property from an object and return the updated object."⟩,
    ⟨"setProperty", [⟨"object", "object"⟩, ⟨"property", "string"⟩, ⟨"value", "any"⟩], .object,
      "Set the value for an object's property and return the updated object. To add a new "
        ++ "property, you can use this function or the addProperty() function."⟩,
    ⟨"getProperty", [⟨"object", "object"⟩, ⟨"property", "string"⟩], .object,
      "Return the value of the given property in a JSON object."⟩,
    ⟨"setPathToValue", [⟨"path", "any"⟩, ⟨"value", "any"⟩], .object,
      "Set the value of a specific path and return the value."⟩,
    ⟨"coalesce", [⟨"...objects", "any"⟩], .object,
      "Return the first non-null value from one or more parameters. Empty strings, empty "
        ++ "arrays, and empty objects are not null."⟩,
    ⟨"xPath", [⟨"xml", "any"⟩, ⟨"xpath", "any"⟩], .object,
      "Check XML for nodes or values that match an XPath(XML Path Language) expression, and "
        ++ "return the matching nodes or values. An XPath expression (referred to as XPath) "
        ++ "helps you navigate an XML document structure so that you can select nodes or "
        ++ "compute values in the XML content."⟩,
    ⟨"jPath", [⟨"json", "any"⟩, ⟨"path", "string"⟩], .object,
      "Check JSON or JSON string for nodes or value that match a path expression, and return "
        ++ "the matching nodes."⟩,
    ⟨"merge", [⟨"...objects", "object"⟩], .object,
      "Merge multiple JSON objects together into a single object."⟩]

def patternFunctions : List Builtin :=
  [⟨"isMatch", [⟨"target", "string"⟩, ⟨"pattern", "string"⟩], .boolean,
      "test a given string ia match a common regex pattern."⟩]

def kindFunctions : List Builtin :=
  [⟨"isInteger", [⟨"value", "any"⟩], .boolean,
      "Return true if the given input is an integer number."⟩,
    ⟨"isFloat", [⟨"value", "any"⟩], .boolean,
      "Return true if the given input is a float point number."⟩,
    ⟨"isBoolean", [⟨"value", "any"⟩], .boolean,
      "Return true if the given input is a Boolean."⟩,
    ⟨"isArray", [⟨"value", "any"⟩], .boolean,
      "Return true if the given input is an array."⟩,
    ⟨"isObject", [⟨"value", "any"⟩], .boolean,
      "Return true if the given input is a complex object or false if it is a primitive object."⟩,
    ⟨"isDateTime", [⟨"value", "any"⟩], .boolean,
      "Return true if the given input is a UTC ISO format timestamp."⟩,
    ⟨"isString", [⟨"value", "any"⟩], .boolean,
      "Return true if the given input is a string."⟩]

def templateFunctions : List Builtin :=
  [⟨"fromFile", [⟨"filePath", "string"⟩, ⟨"evaluate?", "boolean"⟩], .string,
      "Load the content of the specified file and, optionally, evaluate it as a template body."⟩,
    ⟨"ActivityAttachment", [⟨"content", "object"⟩, ⟨"type", "string"⟩], .object,
      "Return an activityAttachment constructed from an object and a type."⟩,
    ⟨"evaluate", [⟨"templateBody", "string"⟩], .string,
      "Evaluate an inline string as a template body and return the result."⟩,
    ⟨"template", [⟨"templateName", "string"⟩, ⟨"...params", "any"⟩], .object,
      "Return the evaluated result of the template with the given name and parameters."⟩,
    ⟨"expandText", [⟨"text", "string"⟩], .object,
      "Expand the string interpolations in the given text and return the result."⟩,
    ⟨"isTemplate", [⟨"templateName", "string"⟩], .boolean,
      "Return true if a template with the given name exists in the current LG file."⟩]

def all : List Builtin :=
  stringFunctions ++ collectionFunctions ++ logicalFunctions ++ conversionFunctions ++
    mathFunctions ++ dateFunctions ++ addressFunctions ++ objectFunctions ++
    patternFunctions ++ kindFunctions ++ templateFunctions

def find? (name : String) : Option Builtin :=
  all.find? fun builtin => builtin.name == name

def qualifier : List Char :=
  ['b', 'u', 'i', 'l', 't', 'i', 'n', '.']

def unqualified (name : String) : String :=
  if qualifier.isPrefixOf name.toList then
    String.ofList (name.toList.drop qualifier.length)
  else
    name

end Builtin

end TemplateServer
